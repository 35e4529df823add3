import VhostServer.System

/-!
# Enabling a vring

When a vring starts and what stays registered for it. In legacy mode (no
`VHOST_USER_F_PROTOCOL_FEATURES`) `SET_VRING_KICK` starts the vring at once;
otherwise `SET_VRING_ENABLE` does. Neither consults `is_owned`, so a vring runs
as soon as the master names a kick fd, whether or not it sent `SET_OWNER`; the
wiring invariant still confines running vrings to a connected device.

A `SET_VRING_KICK` for a vring that already runs stores the new fd and
registers nothing, so the request queue keeps polling the old one; the next
disable detaches the new fd and leaves the old registration behind.
-/

namespace VhostServer

/-- The vring index `vhost_set_vring_fd_common` reads from the payload. -/
def vringFdIndex (msg : Msg) : UInt8 := (msg.payload.u64 &&& vhostVringIdxMask).toUInt8

section KickFd

variable {w : World} {msg : Msg} {fd : Int} {env : Env} {vring : Vring}

/-- `SET_VRING_KICK` for a vring that is already enabled stores the new kick fd
and nothing else: in both modes the request queue keeps the old registration. -/
theorem vhostSetVringFdCommon_kick_of_enabled
    (hasFd : msg.payload.u64 &&& vhostVringInvalidFd = 0)
    (found : getVring w.vdev (vringFdIndex msg).toUInt32 = some vring)
    (enabled : vring.isEnabled = true) :
    vhostSetVringFdCommon w msg fd .kickfd env =
      (w.setVring (vringFdIndex msg).toNat { vring with kickfd := fd }, 0) := by
  unfold vhostSetVringFdCommon
  simp only [vringFdIndex] at found
  simp [hasFd, found, vringSetEnable, enabled, vringFdIndex]

/-- In legacy mode, `SET_VRING_KICK` for a stopped vring starts it as soon as
the virtqueue attaches and the kick fd registers; `is_owned` plays no part. -/
theorem vhostSetVringFdCommon_kick_starts
    (hasFd : msg.payload.u64 &&& vhostVringInvalidFd = 0)
    (found : getVring w.vdev (vringFdIndex msg).toUInt32 = some vring)
    (disabled : vring.isEnabled = false)
    (legacy : hasFeature w.vdev.negotiatedFeatures vhostUserFProtocolFeatures = false)
    (attached : env.virtqAttach = 0) (registered : env.attachEvent = 0) :
    vhostSetVringFdCommon w msg fd .kickfd env =
      (((w.setVring (vringFdIndex msg).toNat { vring with kickfd := fd }).setVring
        (vringFdIndex msg).toNat
          { vring with
            kickfd := fd, isEnabled := true,
            vq := (vring.vq.attach vring.clientInfo).setNotifyFd vring.callfd }).attachEvent
        fd (vringFdIndex msg).toNat, 0) := by
  unfold vhostSetVringFdCommon
  simp only [vringFdIndex] at found
  simp [hasFd, found, vringSetEnable, vringEnable, disabled, legacy, attached, registered,
    vringFdIndex]

end KickFd

/-- A start that fails registers nothing and removes nothing: the request
queue is left as it was. -/
theorem vringEnable_rqEvents_of_failed {w : World} {env : Env} {index : Nat} {vring : Vring}
    (failed : (vringEnable w env index vring).2 ≠ 0) :
    (vringEnable w env index vring).1.rqEvents = w.rqEvents := by
  unfold vringEnable at failed ⊢
  split_ifs at failed ⊢
  · rfl
  · rfl
  · exact absurd rfl failed

/-! ## Which events start or stop a vring

`is_enabled` changes only in `vring_set_enable`, and a call asking for one state
can move a vring only into that state. So a handler starts or stops vrings only
through the calls it makes, and every other handler and callback keeps every
vring's `is_enabled` (`deliver_enabled_changes`). -/

/-- Whether the vring at `index` is enabled; an index past the vrings reads as
disabled. -/
def World.enabledAt (w : World) (index : Nat) : Bool :=
  (w.vdev.vrings[index]?.map (·.isEnabled)).getD false

/-- No vring goes into `state` from `w` to `w'`: each vring whose `is_enabled`
is `state` in `w'` had it in `w` already. -/
def NoneBecomes (state : Bool) (w w' : World) : Prop :=
  ∀ index, w'.enabledAt index = state → w.enabledAt index = state

theorem World.getElem?_setVring_self {w : World} {index : Nat} {old : Vring}
    (found : w.vdev.vrings[index]? = some old) (vring : Vring) :
    (w.setVring index vring).vdev.vrings[index]? = some vring :=
  List.getElem?_set_self (List.getElem?_eq_some_iff.1 found).1

theorem World.enabledAt_of_found {w : World} {index : Nat} {vring : Vring}
    (found : w.vdev.vrings[index]? = some vring) : w.enabledAt index = vring.isEnabled := by
  simp [World.enabledAt, found]

theorem World.enabledAt_setVring {w : World} {index : Nat} {old : Vring}
    (found : w.vdev.vrings[index]? = some old) (vring : Vring) (other : Nat) :
    (w.setVring index vring).enabledAt other =
      if index = other then vring.isEnabled else w.enabledAt other := by
  unfold World.enabledAt
  split_ifs with same
  · subst same
    simp [List.getElem?_set_self (List.getElem?_eq_some_iff.1 found).1]
  · simp [List.getElem?_set_ne same]

namespace NoneBecomes

variable {state : Bool} {w w₁ w₂ w₃ w' : World}

theorem refl (state : Bool) (w : World) : NoneBecomes state w w := fun _ => id

theorem trans (h₁ : NoneBecomes state w₁ w₂) (h₂ : NoneBecomes state w₂ w₃) :
    NoneBecomes state w₁ w₃ := fun index reached => h₁ index (h₂ index reached)

theorem of_vrings (same : w'.vdev.vrings = w.vdev.vrings) : NoneBecomes state w w' := by
  intro index reached
  simpa [World.enabledAt, same] using reached

/-- Replacing a vring moves no vring into `state` unless the new one is in
`state` and the old one was not. -/
theorem setVring {index : Nat} {old vring : Vring} (found : w.vdev.vrings[index]? = some old)
    (towards : vring.isEnabled = state → old.isEnabled = state) :
    NoneBecomes state w (w.setVring index vring) := by
  intro other reached
  rw [World.enabledAt_setVring found] at reached
  split_ifs at reached with same
  · rw [← same, World.enabledAt_of_found found]
    exact towards reached
  · exact reached

end NoneBecomes

theorem KeepsVrings.noneBecomes {w w' : World} (h : KeepsVrings w w') (state : Bool) :
    NoneBecomes state w w' :=
  .of_vrings h.vrings

section SetEnable

variable {w : World} {index : Nat} {vring : Vring}

theorem vringEnable_noneBecomes (found : w.vdev.vrings[index]? = some vring) (env : Env) :
    NoneBecomes false w (vringEnable w env index vring).1 := by
  unfold vringEnable
  dsimp only
  split_ifs
  · exact .refl false w
  · exact .setVring found id
  · have started : NoneBecomes false w (w.setVring index { vring with
        vq := (vring.vq.attach vring.clientInfo).setNotifyFd vring.callfd, isEnabled := true }) :=
      .setVring found nofun
    exact started.trans (.of_vrings rfl)

theorem vringDisable_noneBecomes (found : w.vdev.vrings[index]? = some vring) :
    NoneBecomes true w (vringDisable w index vring) := by
  have stopped : NoneBecomes true w (w.setVring index vring.stop) := .setVring found nofun
  exact stopped.trans (.of_vrings rfl)

/-- `vring_set_enable` moves vrings only into the state it is asked for. -/
theorem vringSetEnable_noneBecomes (found : w.vdev.vrings[index]? = some vring) (env : Env)
    (doEnable : Bool) : NoneBecomes (!doEnable) w (vringSetEnable w env index vring doEnable).1 := by
  unfold vringSetEnable
  split_ifs with same enable
  · exact .refl _ w
  · subst enable
    exact vringEnable_noneBecomes found env
  · obtain rfl : doEnable = false := by simpa using enable
    exact vringDisable_noneBecomes found

theorem vhdVringUninit_noneBecomes (w : World) (index : Nat) :
    NoneBecomes true w (vhdVringUninit w index) := by
  unfold vhdVringUninit
  split
  · rename_i vring found
    split
    · exact vringDisable_noneBecomes found
    · exact .refl true w
  · exact .refl true w

theorem foldl_vhdVringUninit_noneBecomes (indices : List Nat) (w : World) :
    NoneBecomes true w (indices.foldl vhdVringUninit w) := by
  induction indices generalizing w with
  | nil => exact .refl true w
  | cons index rest ih => exact (vhdVringUninit_noneBecomes w index).trans (ih _)

end SetEnable

/-! ### Handlers -/

section Handlers

variable (w : World) (msg : Msg) (env : Env) (state : Bool)

/-- Storing a kick, call or err fd starts a vring only when a kick fd starts it
in legacy mode, and stops none. -/
theorem vhostSetVringFdCommon_noneBecomes (fd : Int) (type : VringDescType)
    (unkicked : state = true → type = .kickfd →
      hasFeature w.vdev.negotiatedFeatures vhostUserFProtocolFeatures = true) :
    NoneBecomes state w (vhostSetVringFdCommon w msg fd type env).1 := by
  unfold vhostSetVringFdCommon
  dsimp only
  split_ifs
  · exact .refl state w
  · split
    · exact .refl state w
    · rename_i vring found
      have found : w.vdev.vrings[(msg.payload.u64 &&& vhostVringIdxMask).toUInt8.toNat]? =
          some vring := getVring_getElem? found
      split
      · split_ifs with legacy
        · cases state
          · have stored : NoneBecomes false w (w.setVring _ { vring with kickfd := fd }) :=
              .setVring found id
            exact stored.trans
              (vringSetEnable_noneBecomes (World.getElem?_setVring_self found _) env true)
          · exact absurd (unkicked rfl rfl) (by simpa using legacy)
        · exact .setVring found id
      · exact .setVring found id
      · exact .setVring found id

theorem vhostSetVringState_noneBecomes (store : VringClientInfo → UInt32 → VringClientInfo) :
    NoneBecomes state w (vhostSetVringState w msg store).1 := by
  unfold vhostSetVringState
  dsimp only
  split
  · exact .refl state w
  · rename_i vring found
    exact .setVring (getVring_getElem? (getVringNotEnabled_eq found).1) id

theorem vhostSetVringAddr_noneBecomes : NoneBecomes state w (vhostSetVringAddr w msg).1 := by
  unfold vhostSetVringAddr
  dsimp only
  split
  · exact .refl state w
  · rename_i vring found
    split_ifs
    · exact .refl state w
    · exact .setVring (getVring_getElem? (getVringNotEnabled_eq found).1) id

/-- `GET_VRING_BASE` stops a vring only in legacy mode, and starts none. -/
theorem vhostGetVringBase_noneBecomes
    (unstopped : state = false →
      hasFeature w.vdev.negotiatedFeatures vhostUserFProtocolFeatures = true) :
    NoneBecomes state w (vhostGetVringBase w msg env).1 := by
  unfold vhostGetVringBase
  dsimp only
  split
  · exact .refl state w
  · rename_i vring found
    split
    · rename_i legacy
      cases state
      · exact absurd (unstopped rfl) (by simpa using legacy)
      · have stopped := vringSetEnable_noneBecomes (getVring_getElem? found) env false
        split
        · exact stopped
        · exact stopped.trans ((vhostSendReply_keepsVrings ..).noneBecomes true)
    · split
      · exact .refl state w
      · exact (vhostSendReply_keepsVrings ..).noneBecomes state

/-- `SET_VRING_ENABLE` moves vrings only into the state its `num` asks for. -/
theorem vhostSetVringEnable_noneBecomes
    (unrequested : (msg.payload.vringState.num == 1) ≠ state) :
    NoneBecomes state w (vhostSetVringEnable w msg env).1 := by
  obtain rfl := Bool.eq_not_of_ne (Ne.symm unrequested)
  unfold vhostSetVringEnable
  dsimp only
  split
  · exact .refl _ w
  · rename_i vring found
    exact vringSetEnable_noneBecomes (getVring_getElem? found) env _

end Handlers

/-! ### The dispatcher and the callbacks -/

section Requests

variable (w : World) (msg : Msg) (fds : List Int) (env : Env) (state : Bool)

/-- A message moves a vring into `state` only if it is `SET_VRING_ENABLE`
asking for `state`, or, in legacy mode, `SET_VRING_KICK` starting it or
`GET_VRING_BASE` stopping it. -/
theorem vhostHandleRequest_noneBecomes
    (unrequested : msg.req = .setVringEnable → (msg.payload.vringState.num == 1) ≠ state)
    (unkicked : state = true → msg.req = .setVringKick →
      hasFeature w.vdev.negotiatedFeatures vhostUserFProtocolFeatures = true)
    (unstopped : state = false → msg.req = .getVringBase →
      hasFeature w.vdev.negotiatedFeatures vhostUserFProtocolFeatures = true) :
    NoneBecomes state w (vhostHandleRequest w msg fds env).1 := by
  refine NoneBecomes.trans ?_ ((vhostAckRequestIfNeeded_keepsVrings ..).noneBecomes state)
  unfold vhostDispatch
  dsimp only
  split
  next => exact (vhostGetFeatures_keepsVrings ..).noneBecomes state
  next => exact .of_vrings rfl
  next => exact .of_vrings rfl
  next => exact .refl state w
  next => exact (vhostSendReply_keepsVrings ..).noneBecomes state
  next => exact .of_vrings rfl
  next => exact (vhostGetConfig_keepsVrings ..).noneBecomes state
  next => exact .refl state w
  next => exact (vhostSetMemTable_keepsVrings ..).noneBecomes state
  next => exact (vhostSendReply_keepsVrings ..).noneBecomes state
  next => exact vhostSetVringFdCommon_noneBecomes w msg env state _ _ fun _ => nofun
  next kick =>
    exact vhostSetVringFdCommon_noneBecomes w msg env state _ _ fun started _ =>
      unkicked started kick
  next => exact vhostSetVringFdCommon_noneBecomes w msg env state _ _ fun _ => nofun
  next => exact vhostSetVringState_noneBecomes w msg state _
  next => exact vhostSetVringState_noneBecomes w msg state _
  next base =>
    exact vhostGetVringBase_noneBecomes w msg env state fun stopping => unstopped stopping base
  next => exact vhostSetVringAddr_noneBecomes w msg state
  next enable => exact vhostSetVringEnable_noneBecomes w msg env state (unrequested enable)
  iterate 12 exact .refl state w
  next => exact (vhostGetInflightFd_keepsVrings ..).noneBecomes state
  next => exact (vhostSetInflightFd_keepsVrings ..).noneBecomes state
  all_goals exact .refl state w

end Requests

/-- Dropping the connection stops vrings and starts none. -/
theorem dropConnection_noneBecomes (w : World) : NoneBecomes true w (dropConnection w) := by
  have memory := (vhdGuestMemoryUnmapAll_onlyMemory (w.delVhostEvent w.vdev.connfd)).vrings
  unfold dropConnection
  dsimp only
  generalize vhdGuestMemoryUnmapAll (w.delVhostEvent w.vdev.connfd) = unmapped at memory ⊢
  have uninit := foldl_vhdVringUninit_noneBecomes (List.range unmapped.vdev.maxQueues.toNat)
    { unmapped with vdev.isOwned := false }
  generalize List.foldl vhdVringUninit _ _ = disabled at uninit ⊢
  exact ((NoneBecomes.of_vrings memory).trans uninit).trans (.of_vrings rfl)

/-- `vhd_vdev_uninit` stops vrings and starts none. -/
theorem vhdVdevUninit_noneBecomes (w : World) : NoneBecomes true w (vhdVdevUninit w) := by
  unfold vhdVdevUninit
  dsimp only
  have uninit := foldl_vhdVringUninit_noneBecomes
    (List.range (w.close w.vdev.listenfd).vdev.maxQueues.toNat) (w.close w.vdev.listenfd)
  generalize List.foldl vhdVringUninit _ _ = disabled at uninit ⊢
  exact ((NoneBecomes.of_vrings rfl).trans uninit).trans
    (((vhdVdevInflightCleanup_keepsVrings disabled).noneBecomes true).trans (.of_vrings rfl))

/-- Which callbacks can move a vring into `state`: a message, as
`vhostHandleRequest_noneBecomes` says, and the close of a connected device's
connection, which stops vrings. -/
theorem deliver_noneBecomes (w : World) (env : Env) (state : Bool) :
    ∀ event : Event,
      (∀ incoming, event = .connRead incoming → incoming.msg.req = .setVringEnable →
        (incoming.msg.payload.vringState.num == 1) ≠ state) →
      (∀ incoming, event = .connRead incoming → state = true →
        incoming.msg.req = .setVringKick →
        hasFeature w.vdev.negotiatedFeatures vhostUserFProtocolFeatures = true) →
      (∀ incoming, event = .connRead incoming → state = false →
        incoming.msg.req = .getVringBase →
        hasFeature w.vdev.negotiatedFeatures vhostUserFProtocolFeatures = true) →
      (event = .connClose → state = false → w.vdev.state ≠ .connected) →
      NoneBecomes state w (deliver w env event).1
  | .serverRead, _, _, _, _ => .of_vrings (serverRead_cases w env).1
  | .serverClose, _, _, _, _ => .refl state w
  | .connRead incoming, unrequested, unkicked, unstopped, _ => by
    unfold deliver connRead
    dsimp only
    split_ifs
    · exact .refl state w
    · exact vhostHandleRequest_noneBecomes w _ _ env state (unrequested incoming rfl)
        (unkicked incoming rfl) (unstopped incoming rfl)
  | .connClose, _, _, _, undropped => by
    show NoneBecomes state w (changeDeviceState w .listening env).1
    rcases connected : w.vdev.state with _ | _ | _
    · rw [changeDeviceState_of_initialized connected]
      exact .of_vrings (armListen_vrings w env)
    · simp only [changeDeviceState, connected]
      exact .refl state w
    · cases state
      · exact absurd connected (undropped rfl rfl)
      · rw [changeDeviceState_of_connected connected]
        exact (dropConnection_noneBecomes w).trans (.of_vrings (armListen_vrings _ env))
  | .vringIo index, _, _, _, _ => by
    rcases vringIoEvent_cases w env index with unchanged | ⟨vring, found, -, advanced⟩
    · exact .of_vrings (congrArg (·.vdev.vrings) unchanged)
    · show NoneBecomes state w (vringIoEvent w env index).1
      rw [advanced]
      have cleared : NoneBecomes state w (w.emit (.clearEventfd vring.kickfd)) := .of_vrings rfl
      exact cleared.trans (.setVring found id)

/-- A vring starts only while the master's `SET_VRING_ENABLE` asks for it
(`num = 1`), or, in legacy mode, while `SET_VRING_KICK` names its kick fd. It
stops only while `SET_VRING_ENABLE` asks for it (`num ≠ 1`), while a legacy
`GET_VRING_BASE` asks for its base, or while a connected device drops its
connection. `vhd_vdev_uninit` starts none. -/
theorem deliver_enabled_changes (w : World) (env : Env) (event : Event) :
    (NoneBecomes true w (deliver w env event).1 ∨
      ∃ incoming, event = .connRead incoming ∧
        ((incoming.msg.req = .setVringEnable ∧ incoming.msg.payload.vringState.num = 1) ∨
          (incoming.msg.req = .setVringKick ∧
            hasFeature w.vdev.negotiatedFeatures vhostUserFProtocolFeatures = false))) ∧
    (NoneBecomes false w (deliver w env event).1 ∨
      (∃ incoming, event = .connRead incoming ∧
        ((incoming.msg.req = .setVringEnable ∧ incoming.msg.payload.vringState.num ≠ 1) ∨
          (incoming.msg.req = .getVringBase ∧
            hasFeature w.vdev.negotiatedFeatures vhostUserFProtocolFeatures = false))) ∨
      (event = .connClose ∧ w.vdev.state = .connected)) ∧
    NoneBecomes true w (vhdVdevUninit w) := by
  refine ⟨?_, ?_, vhdVdevUninit_noneBecomes w⟩
  · refine or_iff_not_imp_right.2 fun started =>
      deliver_noneBecomes w env true event ?_ ?_ (fun _ _ => nofun) fun _ => nofun
    · rintro incoming rfl enable requested
      exact started ⟨incoming, rfl, .inl ⟨enable, by simpa using requested⟩⟩
    · rintro incoming rfl - kick
      exact Bool.of_not_eq_false fun legacy => started ⟨incoming, rfl, .inr ⟨kick, legacy⟩⟩
  · refine or_iff_not_imp_right.2 fun stopped =>
      deliver_noneBecomes w env false event ?_ (fun _ _ => nofun) ?_ ?_
    · rintro incoming rfl enable requested
      exact stopped (.inl ⟨incoming, rfl, .inl ⟨enable, by simpa using requested⟩⟩)
    · rintro incoming rfl - base
      exact Bool.of_not_eq_false fun legacy => stopped (.inl ⟨incoming, rfl, .inr ⟨base, legacy⟩⟩)
    · rintro rfl - connected
      exact stopped (.inr ⟨rfl, connected⟩)

/-! ## A legacy master that kicks vring 0 twice -/

/-- `SET_VRING_KICK` for vring 0. -/
def kickVringZero : Msg := { req := .setVringKick, flags := 1, size := 8, payload := default }

/-- `GET_VRING_BASE` for vring 0. -/
def getVringZeroBase : Msg := { req := .getVringBase, flags := 1, size := 8, payload := default }

/-- A master connects and, before any `SET_OWNER`, kicks vring 0 with fd 5. -/
def kickedOnce : World :=
  (connRead (serverRead World.fresh Env.calm).1 (.whole kickVringZero (some [5])) Env.calm).1

/-- The master then kicks vring 0 again, with fd 6. -/
def kickedTwice : World := (connRead kickedOnce (.whole kickVringZero (some [6])) Env.calm).1

/-- It then asks for the base of vring 0, which stops it in legacy mode. -/
def kickedTwiceStopped : World :=
  (connRead kickedTwice (.whole getVringZeroBase none) Env.calm).1

/-- Last, it kicks vring 0 with fd 7, and registering the kick fd fails. -/
def restartFailed : World :=
  (connRead kickedTwiceStopped (.whole kickVringZero (some [7]))
    { Env.calm with attachEvent := -12 }).1

theorem reachable_kickedOnce : Reachable kickedOnce :=
  (reachable_fresh.serverRead Env.calm ⟨⟨3, .server⟩, by decide, rfl⟩).connRead Env.calm _
    ⟨⟨4, .conn⟩, by decide, rfl⟩

theorem reachable_restartFailed : Reachable restartFailed :=
  let kicked := reachable_kickedOnce.connRead Env.calm _ ⟨⟨4, .conn⟩, by decide, rfl⟩
  (kicked.connRead Env.calm _ ⟨⟨4, .conn⟩, by decide, rfl⟩).connRead _ _
    ⟨⟨4, .conn⟩, by decide, rfl⟩

/-- After the second kick vring 0 runs on kick fd 6, while the request queue
polls fd 5 for it. -/
theorem kickedTwice_polls_old_kickfd :
    Reachable kickedTwice ∧
      kickedTwice.vdev.vrings.map (fun vring => (vring.isEnabled, vring.kickfd)) = [(true, 6)] ∧
      kickedTwice.rqEvents = [⟨5, 0⟩] :=
  ⟨reachable_kickedOnce.connRead Env.calm _ ⟨⟨4, .conn⟩, by decide, rfl⟩, by decide,
    by decide⟩

/-- Stopping vring 0 detaches fd 6, which was never registered, and restarting
it fails at registration: the vring is stopped and released, and fd 5 is still
polled for it. -/
theorem restartFailed_keeps_registration :
    Reachable restartFailed ∧
      (connRead kickedTwiceStopped (.whole kickVringZero (some [7]))
        { Env.calm with attachEvent := -12 }).2 = -12 ∧
      restartFailed.vdev.vrings.map (fun vring => (vring.isEnabled, vring.vq.attached)) =
        [(false, none)] ∧
      restartFailed.rqEvents = [⟨5, 0⟩] :=
  ⟨reachable_restartFailed, by decide, by decide, by decide⟩

/-- In every run, a running vring's virtqueue is attached to exactly the
vring's `client_info` and notifies through its `callfd`, and a stopped vring's
virtqueue is released. -/
theorem reachable_vring_attached {w : World} (h : Reachable w) :
    ∀ vring ∈ w.vdev.vrings,
      (vring.isEnabled = true →
        vring.vq.attached = some vring.clientInfo ∧ vring.vq.notifyFd = vring.callfd) ∧
      (vring.isEnabled = false → vring.vq.attached = none) := by
  intro vring member
  obtain ⟨attached, notify⟩ := h.allAttached vring member
  refine ⟨fun enabled => ⟨by simpa [enabled] using attached, notify enabled⟩,
    fun disabled => ?_⟩
  simpa [disabled] using attached

theorem kickedOnce_vring_attached :
    Reachable kickedOnce ∧ ∀ vring ∈ kickedOnce.vdev.vrings,
      (vring.isEnabled = true →
        vring.vq.attached = some vring.clientInfo ∧ vring.vq.notifyFd = vring.callfd) ∧
      (vring.isEnabled = false → vring.vq.attached = none) :=
  ⟨reachable_kickedOnce, reachable_vring_attached reachable_kickedOnce⟩

/-! ## Ownership -/

/-- In every run, a vring runs only on a connected device. -/
theorem reachable_enabled_connected {w : World} (h : Reachable w) :
    ∀ vring ∈ w.vdev.vrings, vring.isEnabled = true → w.vdev.state = .connected :=
  h.wired.enabled

theorem kickedOnce_enabled_connected :
    Reachable kickedOnce ∧
      ∀ vring ∈ kickedOnce.vdev.vrings, vring.isEnabled = true →
        kickedOnce.vdev.state = .connected :=
  ⟨reachable_kickedOnce, reachable_enabled_connected reachable_kickedOnce⟩

/-- A vring runs on a device that no master owns: the first kick, sent before
any `SET_OWNER`, starts vring 0. -/
theorem enabled_without_owner :
    ¬ ∀ w, Reachable w → ∀ vring ∈ w.vdev.vrings, vring.isEnabled = true →
      w.vdev.state = .connected ∧ w.vdev.isOwned = true := by
  intro owned
  obtain ⟨vring, member, enabled⟩ :
      ∃ vring ∈ kickedOnce.vdev.vrings, vring.isEnabled = true := by decide
  have notOwned : kickedOnce.vdev.isOwned = false := by decide
  simpa [notOwned] using (owned kickedOnce reachable_kickedOnce vring member enabled).2

end VhostServer
