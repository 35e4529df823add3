import VhostServer.Handlers

/-!
# What a handler keeps

No message handler touches the connection: the device's sockets, state and
queue counts, and the vhost loop's event sources (`Connection`). The handlers
that name no vring keep every vring and the request queue as well. This module
proves both frames for each handler and for `vhost_handle_request`, and shows
that the handlers keep every vring `Vring.Attached`.
-/

namespace VhostServer

/-- The part of a world that no message handler writes. -/
structure Connection where
  listenfd : Int
  connfd : Int
  state : VdevState
  maxQueues : UInt32
  numQueues : UInt32
  vhostEvents : List VhostEvent
  deriving DecidableEq

/-- The connection part of a world. -/
def World.connection (w : World) : Connection :=
  ⟨w.vdev.listenfd, w.vdev.connfd, w.vdev.state, w.vdev.maxQueues, w.vdev.numQueues,
    w.vhostEvents⟩

/-- The frame of every handler: the connection and the number of vrings are
kept. -/
structure HandlerFrame (w w' : World) : Prop where
  connection : w'.connection = w.connection
  length_vrings : w'.vdev.vrings.length = w.vdev.vrings.length

/-- The frame of a handler that names no vring: the vrings and the request
queue are kept too. -/
structure KeepsVrings (w w' : World) : Prop where
  connection : w'.connection = w.connection
  vrings : w'.vdev.vrings = w.vdev.vrings
  rqEvents : w'.rqEvents = w.rqEvents

namespace KeepsVrings

theorem refl (w : World) : KeepsVrings w w := ⟨rfl, rfl, rfl⟩

theorem trans {w₁ w₂ w₃ : World} (h₁ : KeepsVrings w₁ w₂)
    (h₂ : KeepsVrings w₂ w₃) : KeepsVrings w₁ w₃ :=
  ⟨h₂.connection.trans h₁.connection, h₂.vrings.trans h₁.vrings,
    h₂.rqEvents.trans h₁.rqEvents⟩

theorem of_onlyMemory {w w' : World} (h : OnlyMemory w w') : KeepsVrings w w' := by
  rw [h.eq]
  exact ⟨rfl, rfl, rfl⟩

theorem emit (w : World) (effect : Effect) : KeepsVrings w (w.emit effect) := ⟨rfl, rfl, rfl⟩

theorem forgetInflight (w : World) (fd : Int) (mem : UInt64) :
    KeepsVrings w { w with vdev.inflightfd := fd, vdev.inflightMem := mem } := ⟨rfl, rfl, rfl⟩

theorem toHandlerFrame {w w' : World} (h : KeepsVrings w w') : HandlerFrame w w' :=
  ⟨h.connection, by rw [h.vrings]⟩

theorem attached {w w' : World} (h : KeepsVrings w w') (hw : AllAttached w) : AllAttached w' :=
  hw.of_vrings h.vrings

end KeepsVrings

namespace HandlerFrame

theorem refl (w : World) : HandlerFrame w w := ⟨rfl, rfl⟩

theorem trans {w₁ w₂ w₃ : World} (h₁ : HandlerFrame w₁ w₂)
    (h₂ : HandlerFrame w₂ w₃) : HandlerFrame w₁ w₃ :=
  ⟨h₂.connection.trans h₁.connection, h₂.length_vrings.trans h₁.length_vrings⟩

theorem setVring (w : World) (index : Nat) (vring : Vring) :
    HandlerFrame w (w.setVring index vring) := ⟨rfl, List.length_set _ _ _⟩

theorem attachEvent (w : World) (fd : Int) (index : Nat) :
    HandlerFrame w (w.attachEvent fd index) := ⟨rfl, rfl⟩

theorem detachEvent (w : World) (fd : Int) : HandlerFrame w (w.detachEvent fd) := ⟨rfl, rfl⟩

end HandlerFrame

/-! ## Sending and memory -/

theorem vhostSendFds_keepsVrings (w : World) (msg : Msg) (fds : List Int)
    (sent : Except Errno Nat) : KeepsVrings w (vhostSendFds w msg fds sent).1 := by
  unfold vhostSendFds
  split
  · exact .emit w _
  · split <;> exact .emit w _

theorem vhostSendReply_keepsVrings (w : World) (msgin : Msg) (u64 : UInt64)
    (sent : Except Errno Nat) : KeepsVrings w (vhostSendReply w msgin u64 sent).1 :=
  vhostSendFds_keepsVrings w _ _ sent

theorem closeFds_onlyMemory (w : World) (fds : List Int) : OnlyMemory w (closeFds w fds) := by
  unfold closeFds
  induction fds generalizing w with
  | nil => exact .refl w
  | cons fd rest ih => exact (OnlyMemory.emit w _).trans (ih _)

theorem vhostSetMemTableLoop_onlyMemory (env : Env) (desc : MemDesc) (fds : List Int) :
    ∀ (remaining i : Nat) (w : World),
      OnlyMemory w (vhostSetMemTableLoop env desc fds remaining i w).1
  | 0, _, w => .refl w
  | remaining + 1, i, w => by
    unfold vhostSetMemTableLoop
    dsimp only
    split_ifs
    · dsimp only
      exact (mapGuestRegion_onlyMemory ..).trans
        ((closeFds_onlyMemory _ _).trans (vhdGuestMemoryUnmapAll_onlyMemory _))
    · exact (mapGuestRegion_onlyMemory ..).trans
        (vhostSetMemTableLoop_onlyMemory env desc fds remaining (i + 1) _)

/-! ## Handlers that name no vring -/

theorem vhostSetMemTable_keepsVrings (w : World) (msg : Msg) (fds : List Int) (env : Env) :
    KeepsVrings w (vhostSetMemTable w msg fds env).1 := by
  unfold vhostSetMemTable
  dsimp only
  split_ifs
  · exact .refl w
  · exact .of_onlyMemory (vhostSetMemTableLoop_onlyMemory env _ fds _ 0 w)

theorem vhostGetConfig_keepsVrings (w : World) (msg : Msg) (env : Env) :
    KeepsVrings w (vhostGetConfig w msg env).1 :=
  vhostSendFds_keepsVrings w _ _ _

theorem vhostGetFeatures_keepsVrings (w : World) (msg : Msg) (env : Env) :
    KeepsVrings w (vhostGetFeatures w msg env).1 := by
  unfold vhostGetFeatures
  dsimp only
  refine KeepsVrings.trans ?_ (vhostSendReply_keepsVrings _ _ _ _)
  exact ⟨rfl, rfl, rfl⟩

theorem vhdVdevInflightCleanup_keepsVrings (w : World) :
    KeepsVrings w (vhdVdevInflightCleanup w) := by
  unfold vhdVdevInflightCleanup
  split_ifs
  · exact .refl w
  · exact ⟨rfl, rfl, rfl⟩

theorem inflightMmapRegion_keepsVrings (w : World) (fd : Int) (size : UInt64)
    (mapped : Except Errno MapAddr) : KeepsVrings w (inflightMmapRegion w fd size mapped).1 := by
  unfold inflightMmapRegion
  split
  · exact .emit w _
  · exact ⟨rfl, rfl, rfl⟩

theorem inflightHeaderLoop_keepsVrings (qsize : UInt16) (per : UInt64) :
    ∀ (remaining : Nat) (buf : UInt64) (w : World),
      KeepsVrings w (inflightHeaderLoop qsize per remaining buf w)
  | 0, _, w => .refl w
  | remaining + 1, _, w =>
    (KeepsVrings.emit w _).trans (inflightHeaderLoop_keepsVrings qsize per remaining _ _)

theorem vhostGetInflightFd_keepsVrings (w : World) (msg : Msg) (env : Env) :
    KeepsVrings w (vhostGetInflightFd w msg env).1 := by
  have cleaned := vhdVdevInflightCleanup_keepsVrings w
  unfold vhostGetInflightFd
  dsimp only
  split
  · exact cleaned
  · split
    · exact cleaned.trans (.emit _ _)
    · split_ifs
      · dsimp only
        exact (cleaned.trans (inflightMmapRegion_keepsVrings ..)).trans (.emit _ _)
      · dsimp only
        exact (((((((cleaned.trans (inflightMmapRegion_keepsVrings ..)).trans (.emit _ _)).trans
          (inflightHeaderLoop_keepsVrings ..)).trans (vhostSendFds_keepsVrings ..)).trans
          (.emit _ _)).trans (.forgetInflight _ _ _)).trans (.emit _ _))
      · exact (((cleaned.trans (inflightMmapRegion_keepsVrings ..)).trans (.emit _ _)).trans
          (inflightHeaderLoop_keepsVrings ..)).trans (vhostSendFds_keepsVrings ..)

theorem vhostSetInflightFd_keepsVrings (w : World) (msg : Msg) (fds : List Int) (env : Env) :
    KeepsVrings w (vhostSetInflightFd w msg fds env).1 := by
  have mapped := (vhdVdevInflightCleanup_keepsVrings w).trans
    (inflightMmapRegion_keepsVrings _ (fds.getD 0 (-1)) msg.payload.inflightDesc.mmapSize
      env.mmapInflight)
  unfold vhostSetInflightFd
  dsimp only
  split_ifs
  · dsimp only
    exact mapped.trans (.emit _ _)
  · exact mapped

/-! ## Handlers of a vring -/

theorem vringEnable_frame (w : World) (env : Env) (index : Nat) (vring : Vring) :
    HandlerFrame w (vringEnable w env index vring).1 := by
  unfold vringEnable
  split_ifs
  · exact .refl w
  · exact .setVring w _ _
  · exact (HandlerFrame.setVring w _ _).trans (.attachEvent _ _ _)

theorem vringSetEnable_frame (w : World) (env : Env) (index : Nat) (vring : Vring)
    (doEnable : Bool) : HandlerFrame w (vringSetEnable w env index vring doEnable).1 := by
  unfold vringSetEnable
  split_ifs
  · exact .refl w
  · exact vringEnable_frame w env index vring
  · exact (HandlerFrame.detachEvent w _).trans (.setVring _ _ _)

theorem vhostSetVringFdCommon_frame (w : World) (msg : Msg) (fd : Int) (type : VringDescType)
    (env : Env) : HandlerFrame w (vhostSetVringFdCommon w msg fd type env).1 := by
  unfold vhostSetVringFdCommon
  dsimp only
  split_ifs
  · exact .refl w
  · split
    · exact .refl w
    · split
      · split_ifs
        · exact (HandlerFrame.setVring w _ _).trans (vringSetEnable_frame _ _ _ _ _)
        · exact .setVring w _ _
      · exact .setVring w _ _
      · exact .setVring w _ _

/-- Storing a kick, call or err fd keeps every vring attached: a kick fd that
starts the vring goes through `vring_set_enable`, and a new call fd of an
enabled vring is passed on to its virtqueue. -/
theorem vhostSetVringFdCommon_attached {w : World} (hw : AllAttached w) (msg : Msg) (fd : Int)
    (type : VringDescType) (env : Env) :
    AllAttached (vhostSetVringFdCommon w msg fd type env).1 := by
  unfold vhostSetVringFdCommon
  dsimp only
  split_ifs
  · exact hw
  · split
    · exact hw
    · rename_i vring found
      have attached := hw vring (getVring_mem found)
      split
      · have kicked : ({ vring with kickfd := fd } : Vring).Attached := attached
        split_ifs
        · exact vringSetEnable_attached (hw.setVring kicked) _ _ _ _
        · exact hw.setVring kicked
      · refine hw.setVring ⟨?_, fun enabled => ?_⟩
        · by_cases enabled : vring.isEnabled <;> simpa [enabled] using attached.1
        · simp_all
      · exact hw.setVring attached

theorem vhostSetVringState_frame (w : World) (msg : Msg)
    (store : VringClientInfo → UInt32 → VringClientInfo) :
    HandlerFrame w (vhostSetVringState w msg store).1 := by
  unfold vhostSetVringState
  dsimp only
  split
  · exact .refl w
  · exact .setVring w _ _

theorem vhostSetVringState_attached {w : World} (hw : AllAttached w) (msg : Msg)
    (store : VringClientInfo → UInt32 → VringClientInfo) :
    AllAttached (vhostSetVringState w msg store).1 := by
  unfold vhostSetVringState
  dsimp only
  split
  · exact hw
  · rename_i vring found
    obtain ⟨found, disabled⟩ := getVringNotEnabled_eq found
    have attached := hw vring (getVring_mem found)
    exact hw.setVring (by simpa [Vring.Attached, disabled] using attached)

theorem vhostSetVringAddr_frame (w : World) (msg : Msg) :
    HandlerFrame w (vhostSetVringAddr w msg).1 := by
  unfold vhostSetVringAddr
  dsimp only
  split
  · exact .refl w
  · split_ifs
    · exact .refl w
    · exact .setVring w _ _

theorem vhostSetVringAddr_attached {w : World} (hw : AllAttached w) (msg : Msg) :
    AllAttached (vhostSetVringAddr w msg).1 := by
  unfold vhostSetVringAddr
  dsimp only
  split
  · exact hw
  · rename_i vring found
    obtain ⟨found, disabled⟩ := getVringNotEnabled_eq found
    have attached := hw vring (getVring_mem found)
    split_ifs
    · exact hw
    · exact hw.setVring (by simpa [Vring.Attached, disabled] using attached)

theorem vhostGetVringBase_frame (w : World) (msg : Msg) (env : Env) :
    HandlerFrame w (vhostGetVringBase w msg env).1 := by
  unfold vhostGetVringBase
  dsimp only
  split
  · exact .refl w
  · have stopped := vringSetEnable_frame w env
    split
    · split
      · exact stopped ..
      · exact (stopped ..).trans (vhostSendReply_keepsVrings ..).toHandlerFrame
    · split
      · exact .refl w
      · exact (vhostSendReply_keepsVrings ..).toHandlerFrame

theorem vhostGetVringBase_attached {w : World} (hw : AllAttached w) (msg : Msg) (env : Env) :
    AllAttached (vhostGetVringBase w msg env).1 := by
  unfold vhostGetVringBase
  dsimp only
  split
  · exact hw
  · have stopped := vringSetEnable_attached hw env
    split
    · split
      · exact stopped _ _ _
      · exact (vhostSendReply_keepsVrings ..).attached (stopped _ _ _)
    · split
      · exact hw
      · exact (vhostSendReply_keepsVrings ..).attached hw

theorem vhostSetVringEnable_frame (w : World) (msg : Msg) (env : Env) :
    HandlerFrame w (vhostSetVringEnable w msg env).1 := by
  unfold vhostSetVringEnable
  dsimp only
  split
  · exact .refl w
  · exact vringSetEnable_frame w _ _ _ _

theorem vhostSetVringEnable_attached {w : World} (hw : AllAttached w) (msg : Msg) (env : Env) :
    AllAttached (vhostSetVringEnable w msg env).1 := by
  unfold vhostSetVringEnable
  dsimp only
  split
  · exact hw
  · exact vringSetEnable_attached hw _ _ _ _

/-! ## The dispatcher -/

theorem vhostAckRequestIfNeeded_keepsVrings (w : World) (msg : Msg) (ret : Int) (env : Env) :
    KeepsVrings w (vhostAckRequestIfNeeded w msg ret env).1 := by
  unfold vhostAckRequestIfNeeded
  split_ifs
  any_goals exact .refl w
  exact vhostSendReply_keepsVrings ..

/-- The frame of the whole protocol engine: whatever the message, the
connection and the number of vrings are kept. -/
theorem vhostDispatch_frame (w : World) (msg : Msg) (fds : List Int) (env : Env) :
    HandlerFrame w (vhostDispatch w msg fds env).1 := by
  unfold vhostDispatch
  dsimp only
  split
  next => exact (vhostGetFeatures_keepsVrings ..).toHandlerFrame
  next => exact ⟨rfl, rfl⟩
  next => exact ⟨rfl, rfl⟩
  next => exact .refl w
  next => exact (vhostSendReply_keepsVrings ..).toHandlerFrame
  next => exact ⟨rfl, rfl⟩
  next => exact (vhostGetConfig_keepsVrings ..).toHandlerFrame
  next => exact .refl w
  next => exact (vhostSetMemTable_keepsVrings ..).toHandlerFrame
  next => exact (vhostSendReply_keepsVrings ..).toHandlerFrame
  next => exact vhostSetVringFdCommon_frame ..
  next => exact vhostSetVringFdCommon_frame ..
  next => exact vhostSetVringFdCommon_frame ..
  next => exact vhostSetVringState_frame ..
  next => exact vhostSetVringState_frame ..
  next => exact vhostGetVringBase_frame ..
  next => exact vhostSetVringAddr_frame ..
  next => exact vhostSetVringEnable_frame ..
  iterate 12 exact .refl w
  next => exact (vhostGetInflightFd_keepsVrings ..).toHandlerFrame
  next => exact (vhostSetInflightFd_keepsVrings ..).toHandlerFrame
  all_goals exact .refl w

/-- Every handler keeps every vring attached to exactly what it is enabled
with. -/
theorem vhostDispatch_attached {w : World} (hw : AllAttached w) (msg : Msg) (fds : List Int)
    (env : Env) : AllAttached (vhostDispatch w msg fds env).1 := by
  unfold vhostDispatch
  dsimp only
  split
  next => exact (vhostGetFeatures_keepsVrings ..).attached hw
  next => exact hw
  next => exact hw
  next => exact hw
  next => exact (vhostSendReply_keepsVrings ..).attached hw
  next => exact hw
  next => exact (vhostGetConfig_keepsVrings ..).attached hw
  next => exact hw
  next => exact (vhostSetMemTable_keepsVrings ..).attached hw
  next => exact (vhostSendReply_keepsVrings ..).attached hw
  next => exact vhostSetVringFdCommon_attached hw _ _ _ _
  next => exact vhostSetVringFdCommon_attached hw _ _ _ _
  next => exact vhostSetVringFdCommon_attached hw _ _ _ _
  next => exact vhostSetVringState_attached hw _ _
  next => exact vhostSetVringState_attached hw _ _
  next => exact vhostGetVringBase_attached hw _ _
  next => exact vhostSetVringAddr_attached hw _
  next => exact vhostSetVringEnable_attached hw _ _
  iterate 12 exact hw
  next => exact (vhostGetInflightFd_keepsVrings ..).attached hw
  next => exact (vhostSetInflightFd_keepsVrings ..).attached hw
  all_goals exact hw

theorem vhostHandleRequest_frame (w : World) (msg : Msg) (fds : List Int) (env : Env) :
    HandlerFrame w (vhostHandleRequest w msg fds env).1 :=
  (vhostDispatch_frame w msg fds env).trans (vhostAckRequestIfNeeded_keepsVrings ..).toHandlerFrame

theorem vhostHandleRequest_attached {w : World} (hw : AllAttached w) (msg : Msg)
    (fds : List Int) (env : Env) : AllAttached (vhostHandleRequest w msg fds env).1 :=
  (vhostAckRequestIfNeeded_keepsVrings ..).attached (vhostDispatch_attached hw msg fds env)

end VhostServer
