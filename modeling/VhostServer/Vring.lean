import VhostServer.GuestMemory

/-!
# Vring lifecycle

`get_vring`, `get_vring_not_enabled`, `vring_set_enable`, `vhd_vring_init`,
`vhd_vring_uninit` and `vring_io_event` of `vdev.c`.

A vring is enabled by attaching the virtqueue primitive to its collected
`client_info`, pointing the primitive's notify fd at `callfd`, and registering
`kickfd` on the request queue; disabling undoes the registration and releases
the primitive. `Vring.Attached` states what that leaves behind, and
`vringSetEnable_attached` shows that both directions and every failure keep it.
-/

namespace VhostServer

/-- `get_vring`: the vring at `index`, when `index < num_queues`. -/
def getVring (vdev : Vdev) (index : UInt32) : Option Vring :=
  if vdev.numQueues ≤ index then none else vdev.vrings[index.toNat]?

/-- `get_vring_not_enabled`. -/
def getVringNotEnabled (vdev : Vdev) (index : UInt32) : Option Vring :=
  match getVring vdev index with
  | some vring => if vring.isEnabled then none else some vring
  | none => none

/-- The enabling branch of `vring_set_enable`: attach the virtqueue, set its
notify fd, register the kick fd; a failed registration releases the queue. -/
def vringEnable (w : World) (env : Env) (index : Nat) (vring : Vring) : World × Int :=
  if env.virtqAttach != 0 then (w, env.virtqAttach)
  else
    let vq := (vring.vq.attach vring.clientInfo).setNotifyFd vring.callfd
    if env.attachEvent != 0 then (w.setVring index { vring with vq := vq.release }, env.attachEvent)
    else
      ((w.setVring index { vring with vq := vq, isEnabled := true }).attachEvent vring.kickfd index,
        0)

/-- What stopping leaves of a vring: its virtqueue released, `is_enabled`
cleared, everything else kept. -/
def Vring.stop (vring : Vring) : Vring := { vring with vq := vring.vq.release, isEnabled := false }

/-- The disabling branch of `vring_set_enable`: detach the kick fd, release the
virtqueue. -/
def vringDisable (w : World) (index : Nat) (vring : Vring) : World :=
  (w.detachEvent vring.kickfd).setVring index vring.stop

/-- `vring_set_enable` on the vring at `index`, whose current value is `vring`.
A request for the state the vring is already in succeeds and does nothing. -/
def vringSetEnable (w : World) (env : Env) (index : Nat) (vring : Vring) (doEnable : Bool) :
    World × Int :=
  if doEnable == vring.isEnabled then (w, 0)
  else if doEnable then vringEnable w env index vring
  else (vringDisable w index vring, 0)

/-- `vhd_vring_init` on a `calloc`ed vring: disabled, with no kick or call fd.
`errfd` keeps the zero of the allocation. -/
def vhdVringInit : Vring :=
  { clientInfo := default, kickfd := -1, callfd := -1, errfd := 0, isEnabled := false,
    vq := { attached := none, notifyFd := 0, lastAvail := 0 } }

/-- `vhd_vring_uninit`: disable the vring at `index` if it is enabled. -/
def vhdVringUninit (w : World) (index : Nat) : World :=
  match w.vdev.vrings[index]? with
  | some vring => if vring.isEnabled then vringDisable w index vring else w
  | none => w

/-- `vring_io_event`, the kick callback on the request queue: clear the kick
eventfd, then let the device type dispatch the available descriptors, which
advances the virtqueue's `last_avail`. -/
def vringIoEvent (w : World) (env : Env) (index : Nat) : World × Int :=
  match w.vdev.vrings[index]? with
  | none => (w, -EINVAL)
  | some vring =>
    if !vring.isEnabled then (w, -EINVAL)
    else
      let vq := { vring.vq with lastAvail := vring.vq.lastAvail + env.dispatchAdvance }
      ((w.emit (.clearEventfd vring.kickfd)).setVring index { vring with vq := vq },
        env.dispatchResult)

/-! ## What an enabled vring holds -/

/-- The attachment invariant of a vring: its virtqueue is attached, to exactly
its `client_info`, iff it is enabled, and an enabled vring notifies through
its `callfd`. -/
def Vring.Attached (vring : Vring) : Prop :=
  vring.vq.attached = (if vring.isEnabled then some vring.clientInfo else none) ∧
    (vring.isEnabled = true → vring.vq.notifyFd = vring.callfd)

/-- Every vring of the world satisfies `Vring.Attached`. -/
def AllAttached (w : World) : Prop := ∀ vring ∈ w.vdev.vrings, vring.Attached

theorem vhdVringInit_attached : vhdVringInit.Attached := by
  simp [Vring.Attached, vhdVringInit]

theorem getVring_mem {vdev : Vdev} {index : UInt32} {vring : Vring}
    (h : getVring vdev index = some vring) : vring ∈ vdev.vrings := by
  unfold getVring at h
  split at h
  · cases h
  · exact List.getElem?_mem h

theorem getVring_getElem? {vdev : Vdev} {index : UInt32} {vring : Vring}
    (h : getVring vdev index = some vring) : vdev.vrings[index.toNat]? = some vring := by
  unfold getVring at h
  split at h
  · cases h
  · exact h

theorem getVringNotEnabled_eq {vdev : Vdev} {index : UInt32} {vring : Vring}
    (h : getVringNotEnabled vdev index = some vring) :
    getVring vdev index = some vring ∧ vring.isEnabled = false := by
  unfold getVringNotEnabled at h
  split at h
  · rename_i found
    split at h
    · cases h
    · rename_i disabled
      cases h
      exact ⟨found, by simpa using disabled⟩
  · cases h

theorem AllAttached.setVring {w : World} (h : AllAttached w) {index : Nat} {vring : Vring}
    (hv : vring.Attached) : AllAttached (w.setVring index vring) := by
  intro other member
  rcases List.mem_or_eq_of_mem_set member with old | rfl
  · exact h other old
  · exact hv

theorem AllAttached.of_vrings {w w' : World} (h : AllAttached w)
    (vrings : w'.vdev.vrings = w.vdev.vrings) : AllAttached w' := by
  intro vring member
  exact h vring (vrings ▸ member)

theorem vringEnable_attached {w : World} (h : AllAttached w) (env : Env) (index : Nat)
    {vring : Vring} (disabled : vring.isEnabled = false) :
    AllAttached (vringEnable w env index vring).1 := by
  unfold vringEnable
  split_ifs
  · exact h
  · exact h.setVring (by simp [Vring.Attached, Virtq.release, disabled])
  · exact AllAttached.of_vrings (h.setVring (by simp [Vring.Attached])) rfl

theorem vringDisable_attached {w : World} (h : AllAttached w) (index : Nat) (vring : Vring) :
    AllAttached (vringDisable w index vring) :=
  AllAttached.setVring (AllAttached.of_vrings h rfl) (by simp [Vring.Attached, Vring.stop])

/-- Enabling, disabling, and every failure of either keep every vring
attached to exactly what it is enabled with. -/
theorem vringSetEnable_attached {w : World} (h : AllAttached w) (env : Env) (index : Nat)
    (vring : Vring) (doEnable : Bool) :
    AllAttached (vringSetEnable w env index vring doEnable).1 := by
  unfold vringSetEnable
  split_ifs with same enable
  · exact h
  · exact vringEnable_attached h env index (by simpa [enable] using same)
  · exact vringDisable_attached h index vring

theorem vhdVringUninit_attached {w : World} (h : AllAttached w) (index : Nat) :
    AllAttached (vhdVringUninit w index) := by
  unfold vhdVringUninit
  split
  · split
    · exact vringDisable_attached h index _
    · exact h
  · exact h

end VhostServer
