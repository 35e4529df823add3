import VhostServer.Replies

/-!
# The inflight region across a run

A device holds at most one inflight region: `inflightfd`, `inflight_mem` and
`inflight_size`. Only `GET_INFLIGHT_FD` and `SET_INFLIGHT_FD` write them, and
both begin with `vhd_vdev_inflight_cleanup`, which unmaps and closes the
region held. Every other request, the acknowledgement, the callbacks of both
loops and a disconnect keep the region, so that the next master finds it. So
no step of any run drops a held region without first unmapping and closing it
(`deliver_inflight`).
-/

namespace VhostServer

/-- The inflight region of a device: its fd, address and size. -/
def Vdev.inflight (vdev : Vdev) : Int × UInt64 × UInt64 :=
  (vdev.inflightfd, vdev.inflightMem, vdev.inflightSize)

/-- `w'` differs from `w` at most in the vrings, the registrations on the
request queue and the effect log: what the vring handlers write. -/
structure OnlyVrings (w w' : World) : Prop where
  eq : w' = { w with vdev.vrings := w'.vdev.vrings, rqEvents := w'.rqEvents, effects := w'.effects }

namespace OnlyVrings

theorem refl (w : World) : OnlyVrings w w := ⟨rfl⟩

theorem trans {w₁ w₂ w₃ : World} (h₁ : OnlyVrings w₁ w₂) (h₂ : OnlyVrings w₂ w₃) :
    OnlyVrings w₁ w₃ := by
  constructor
  rw [h₂.eq, h₁.eq]

theorem emit (w : World) (effect : Effect) : OnlyVrings w (w.emit effect) := ⟨rfl⟩

theorem setVring (w : World) (index : Nat) (vring : Vring) :
    OnlyVrings w (w.setVring index vring) := ⟨rfl⟩

theorem vhostSendFds (w : World) (msg : Msg) (fds : List Int) (sent : Except Errno Nat) :
    OnlyVrings w (VhostServer.vhostSendFds w msg fds sent).1 := by
  rw [vhostSendFds_fst]
  exact emit w _

theorem inflight {w w' : World} (h : OnlyVrings w w') : w'.vdev.inflight = w.vdev.inflight := by
  rw [h.eq]
  rfl

end OnlyVrings

theorem OnlyMemory.inflight {w w' : World} (h : OnlyMemory w w') :
    w'.vdev.inflight = w.vdev.inflight := by
  rw [h.eq]
  rfl

/-! ## The vring handlers -/

section Vrings

variable (w : World)

theorem vringSetEnable_onlyVrings (env : Env) (index : Nat) (vring : Vring) (doEnable : Bool) :
    OnlyVrings w (vringSetEnable w env index vring doEnable).1 := by
  unfold vringSetEnable vringEnable vringDisable
  split_ifs <;> exact ⟨rfl⟩

theorem vhostSetVringFdCommon_onlyVrings (msg : Msg) (fd : Int) (type : VringDescType)
    (env : Env) : OnlyVrings w (vhostSetVringFdCommon w msg fd type env).1 := by
  unfold vhostSetVringFdCommon
  dsimp only
  split_ifs
  · exact .refl w
  split
  · exact .refl w
  split
  · split_ifs
    · exact (OnlyVrings.setVring ..).trans (vringSetEnable_onlyVrings ..)
    · exact .setVring ..
  · exact .setVring ..
  · exact .setVring ..

theorem vhostSetVringState_onlyVrings (msg : Msg)
    (store : VringClientInfo → UInt32 → VringClientInfo) :
    OnlyVrings w (vhostSetVringState w msg store).1 := by
  unfold vhostSetVringState
  dsimp only
  split
  · exact .refl w
  · exact .setVring ..

theorem vhostGetVringBase_onlyVrings (msg : Msg) (env : Env) :
    OnlyVrings w (vhostGetVringBase w msg env).1 := by
  unfold vhostGetVringBase
  dsimp only
  split
  · exact .refl w
  have stopped := vringSetEnable_onlyVrings w env
  split
  · split
    · exact stopped ..
    · exact (stopped ..).trans (.vhostSendFds ..)
  · split
    · exact .refl w
    · exact .vhostSendFds ..

theorem vhostSetVringAddr_onlyVrings (msg : Msg) : OnlyVrings w (vhostSetVringAddr w msg).1 := by
  unfold vhostSetVringAddr
  dsimp only
  split
  · exact .refl w
  split_ifs
  · exact .refl w
  · exact .setVring ..

theorem vhostSetVringEnable_onlyVrings (msg : Msg) (env : Env) :
    OnlyVrings w (vhostSetVringEnable w msg env).1 := by
  unfold vhostSetVringEnable
  dsimp only
  split
  · exact .refl w
  · exact vringSetEnable_onlyVrings ..

theorem vringIoEvent_onlyVrings (env : Env) (index : Nat) :
    OnlyVrings w (vringIoEvent w env index).1 := by
  rcases vringIoEvent_cases w env index with unchanged | ⟨vring, -, -, advanced⟩
  · rw [unchanged]
    exact .refl w
  · rw [advanced]
    exact (OnlyVrings.emit ..).trans (.setVring ..)

end Vrings

/-! ## Requests -/

/-- The region as `GET_INFLIGHT_FD` leaves it is reached from the cleaned-up
device by appending calls. -/
theorem vhostGetInflightFd_after_cleanup (w : World) (msg : Msg) (env : Env) :
    ∃ sent, Sends (vhdVdevInflightCleanup w) (vhostGetInflightFd w msg env).1 sent := by
  unfold vhostGetInflightFd
  generalize vhdVdevInflightCleanup w = clean
  dsimp only
  split
  · exact ⟨_, .refl clean⟩
  split
  · exact ⟨_, Sends.emit clean (.close _)⟩
  split
  · exact ⟨_, (inflightMmapRegion_sends ..).quiet (Sends.emit _ (.close _))⟩
  split
  · exact ⟨_, ((((inflightMmapRegion_sends ..).quiet (Sends.emit _ (.memset _ _))).quiet
      (inflightHeaderLoop_sends ..)).trans (vhostSendFds_sends ..)).quiet
      (((Sends.emit _ (.munmap _ _)).quiet (.of_effects rfl)).quiet (Sends.emit _ (.close _)))⟩
  · exact ⟨_, (((inflightMmapRegion_sends ..).quiet (Sends.emit _ (.memset _ _))).quiet
      (inflightHeaderLoop_sends ..)).trans (vhostSendFds_sends ..)⟩

theorem vhostSetInflightFd_after_cleanup (w : World) (msg : Msg) (fds : List Int) (env : Env) :
    Sends (vhdVdevInflightCleanup w) (vhostSetInflightFd w msg fds env).1 [] := by
  unfold vhostSetInflightFd
  dsimp only
  split_ifs
  · exact (inflightMmapRegion_sends ..).quiet (Sends.emit _ (.close _))
  · exact inflightMmapRegion_sends ..

theorem vhdVdevInflightCleanup_effects (w : World) :
    (vhdVdevInflightCleanup w).effects = w.effects ++
      if w.vdev.inflightfd = -1 then []
      else [.munmap w.vdev.inflightMem w.vdev.inflightSize, .close w.vdev.inflightfd] := by
  unfold vhdVdevInflightCleanup
  by_cases none : w.vdev.inflightfd = -1 <;> simp [none]

/-- Every request keeps the region, but `GET_INFLIGHT_FD` and
`SET_INFLIGHT_FD`, which start from the cleaned-up device. -/
theorem vhostDispatch_inflight (w : World) (msg : Msg) (fds : List Int) (env : Env) :
    (vhostDispatch w msg fds env).1.vdev.inflight = w.vdev.inflight ∨
      (msg.req = .getInflightFd ∨ msg.req = .setInflightFd) ∧
        ∃ sent, Sends (vhdVdevInflightCleanup w) (vhostDispatch w msg fds env).1 sent := by
  have replied : ∀ (w' : World) (msgin : Msg) (u64 : UInt64) (sent : Except Errno Nat),
      (vhostSendReply w' msgin u64 sent).1.vdev.inflight = w'.vdev.inflight :=
    fun w' _ _ _ => (OnlyVrings.vhostSendFds w' _ _ _).inflight
  unfold vhostDispatch
  dsimp only
  split
  next => exact .inl (replied ..)
  iterate 3 exact .inl rfl
  next => exact .inl (replied ..)
  next => exact .inl rfl
  next => exact .inl (OnlyVrings.vhostSendFds ..).inflight
  next => exact .inl rfl
  next =>
    refine .inl ?_
    unfold vhostSetMemTable
    dsimp only
    split_ifs
    · rfl
    · exact (vhostSetMemTableLoop_onlyMemory ..).inflight
  next => exact .inl (replied ..)
  iterate 3 exact .inl (vhostSetVringFdCommon_onlyVrings ..).inflight
  iterate 2 exact .inl (vhostSetVringState_onlyVrings ..).inflight
  next => exact .inl (vhostGetVringBase_onlyVrings ..).inflight
  next => exact .inl (vhostSetVringAddr_onlyVrings ..).inflight
  next => exact .inl (vhostSetVringEnable_onlyVrings ..).inflight
  iterate 12 exact .inl rfl
  next getInflight => exact .inr ⟨.inl getInflight, vhostGetInflightFd_after_cleanup ..⟩
  next setInflight => exact .inr ⟨.inr setInflight, _, vhostSetInflightFd_after_cleanup ..⟩
  all_goals exact .inl rfl

theorem vhostAckRequestIfNeeded_inflight (w : World) (msg : Msg) (ret : Int) (env : Env) :
    (vhostAckRequestIfNeeded w msg ret env).1.vdev.inflight = w.vdev.inflight := by
  unfold vhostAckRequestIfNeeded
  split_ifs
  any_goals rfl
  exact (OnlyVrings.vhostSendFds ..).inflight

theorem vhostHandleRequest_inflight (w : World) (msg : Msg) (fds : List Int) (env : Env) :
    (vhostHandleRequest w msg fds env).1.vdev.inflight = w.vdev.inflight ∨
      (msg.req = .getInflightFd ∨ msg.req = .setInflightFd) ∧
        ∃ sent, Sends (vhdVdevInflightCleanup w) (vhostHandleRequest w msg fds env).1 sent := by
  unfold vhostHandleRequest
  dsimp only
  rcases vhostDispatch_inflight w msg fds env with kept | ⟨request, sent, cleaned⟩
  · exact .inl ((vhostAckRequestIfNeeded_inflight ..).trans kept)
  refine .inr ⟨request, ?_⟩
  rcases vhostAckRequestIfNeeded_sends (vhostDispatch w msg fds env).1
      (vhostDispatch w msg fds env).2.1 (vhostDispatch w msg fds env).2.2 env with
    quiet | ⟨-, -, acked⟩
  · exact ⟨_, cleaned.quiet quiet⟩
  · exact ⟨_, cleaned.trans acked⟩

/-! ## Callbacks -/

theorem dropConnection_inflight (w : World) :
    (dropConnection w).vdev.inflight = w.vdev.inflight := by
  have memory := (vhdGuestMemoryUnmapAll_onlyMemory (w.delVhostEvent w.vdev.connfd)).inflight
  unfold dropConnection
  dsimp only
  generalize vhdGuestMemoryUnmapAll (w.delVhostEvent w.vdev.connfd) = unmapped at memory ⊢
  have uninit := foldl_vhdVringUninit_vdev (List.range unmapped.vdev.maxQueues.toNat)
    { unmapped with vdev.isOwned := false }
  generalize List.foldl vhdVringUninit _ _ = disabled at uninit ⊢
  show disabled.vdev.inflight = _
  rw [uninit]
  exact memory

theorem changeDeviceState_inflight (w : World) (newState : VdevState) (env : Env) :
    (changeDeviceState w newState env).1.vdev.inflight = w.vdev.inflight := by
  have armed : ∀ w', (armListen w' env).1.vdev.inflight = w'.vdev.inflight := fun w' => by
    rcases armListen_cases w' env with ⟨listening, -⟩ | ⟨listening, -⟩ <;> rw [listening]
    rfl
  unfold changeDeviceState
  split
  · exact (armed _).trans (dropConnection_inflight w)
  · exact armed w
  · split_ifs <;> rfl
  · rfl

theorem serverRead_inflight (w : World) (env : Env) :
    (serverRead w env).1.vdev.inflight = w.vdev.inflight := by
  unfold serverRead
  split
  · rfl
  rename_i connfd _
  split
  · rfl
  · rfl
  dsimp only
  have changed := changeDeviceState_inflight { w with vdev.connfd := connfd } .connected env
  split_ifs <;> exact changed

/-- In every step of every run: the device keeps its inflight region, or the
step handles `GET_INFLIGHT_FD` or `SET_INFLIGHT_FD`, and then its first calls
unmap the region held, at its address and size, and close its fd. A
disconnect keeps the region, for the next master. -/
theorem deliver_inflight (w : World) (env : Env) (event : Event) :
    (deliver w env event).1.vdev.inflight = w.vdev.inflight ∨
      ∃ incoming, event = .connRead incoming ∧
        (incoming.msg.req = .getInflightFd ∨ incoming.msg.req = .setInflightFd) ∧
        ∃ calls, (deliver w env event).1.effects = w.effects ++
          (if w.vdev.inflightfd = -1 then []
            else [.munmap w.vdev.inflightMem w.vdev.inflightSize, .close w.vdev.inflightfd]) ++
            calls := by
  cases event with
  | serverRead => exact .inl (serverRead_inflight w env)
  | serverClose => exact .inl rfl
  | connRead incoming =>
    unfold deliver connRead
    dsimp only
    by_cases failed : (netRecvMsg incoming env.uninitializedFds).1 < 0
    · rw [if_pos failed]
      exact .inl rfl
    rw [if_neg failed]
    rcases vhostHandleRequest_inflight w incoming.msg (netRecvMsg incoming env.uninitializedFds).2
      env with kept | ⟨request, _, calls, effects, -⟩
    · exact .inl kept
    · refine .inr ⟨incoming, rfl, request, calls, ?_⟩
      rw [effects, vhdVdevInflightCleanup_effects]
  | connClose => exact .inl (changeDeviceState_inflight w .listening env)
  | vringIo index => exact .inl (vringIoEvent_onlyVrings w env index).inflight

end VhostServer
