import VhostServer.Lifecycle

/-!
# Ownership of received descriptors

A descriptor that arrives with a message belongs to the device: a handler
either stores it in one of the device's slots or closes it. `SET_MEM_TABLE`
closes what it does not map, and `SET_INFLIGHT_FD` closes what it cannot map.
`vhost_set_vring_fd_common` does neither when it rejects a request: a polling
request or an index past `num_queues` leaves the world exactly as it was, so
the received descriptor is neither stored nor closed. When it accepts one, it
overwrites the vring's slot without closing the descriptor it held.
-/

namespace VhostServer

/-- The descriptor slots of a device hold `fd`: a live guest region's fd, a
vring's kick, call or err fd, or the inflight fd. -/
def Vdev.Holds (vdev : Vdev) (fd : Int) : Prop :=
  (∃ reg ∈ vdev.guestMemmap.regions, isRegionMapped reg = true ∧ reg.fd = fd) ∨
    (∃ vring ∈ vdev.vrings, vring.kickfd = fd ∨ vring.callfd = fd ∨ vring.errfd = fd) ∨
    vdev.inflightfd = fd

section VringFd

variable (w : World) (msg : Msg) (fd : Int) (type : VringDescType) (env : Env)

/-- A polling request, or one for a vring past `num_queues`, is refused with the
world left exactly as it was: the received descriptor is neither stored nor
closed. -/
theorem vhostSetVringFdCommon_of_rejected
    (rejected : msg.payload.u64 &&& vhostVringInvalidFd ≠ 0 ∨
      getVring w.vdev (vringFdIndex msg).toUInt32 = none) :
    (vhostSetVringFdCommon w msg fd type env).1 = w := by
  unfold vhostSetVringFdCommon
  simp only [vringFdIndex] at rejected
  dsimp only
  rcases rejected with polling | missing
  · simp [polling]
  · split_ifs
    · rfl
    · simp [missing]

/-- `SET_VRING_CALL` for a vring stores the new call fd in place of the old
one, which stays open: nothing is closed. -/
theorem vhostSetVringFdCommon_call_effects :
    (vhostSetVringFdCommon w msg fd .callfd env).1.effects = w.effects := by
  unfold vhostSetVringFdCommon
  dsimp only
  split_ifs
  · rfl
  · split <;> rfl

end VringFd

/-- The sibling `SET_INFLIGHT_FD` closes the descriptor it received whenever it
fails. -/
theorem vhostSetInflightFd_closes_of_failed (w : World) (msg : Msg) (fds : List Int) (env : Env)
    (failed : (vhostSetInflightFd w msg fds env).2 ≠ 0) :
    Effect.close (fds.getD 0 (-1)) ∈ (vhostSetInflightFd w msg fds env).1.effects := by
  unfold vhostSetInflightFd at failed ⊢
  dsimp only at failed ⊢
  split_ifs at failed ⊢ with mappedFailed
  · simp
  · exact absurd rfl failed

/-- `SET_VRING_CALL` for vring 5 of a one-queue device, with a descriptor. -/
def callVringFive : Msg :=
  { req := .setVringCall, flags := 1, size := 8, payload := { (default : Payload) with u64 := 5 } }

/-- The first master sends `SET_VRING_CALL` for vring 5 with fd 7: it is
refused with `EINVAL`, and fd 7 is neither closed nor held by the device. -/
theorem callVringFive_leaks_fd :
    (connRead firstMaster (.whole callVringFive (some [7])) Env.calm).2 = EINVAL ∧
      Effect.close 7 ∉
        (connRead firstMaster (.whole callVringFive (some [7])) Env.calm).1.effects ∧
      ¬ (connRead firstMaster (.whole callVringFive (some [7])) Env.calm).1.vdev.Holds 7 := by
  unfold Vdev.Holds
  decide

end VhostServer
