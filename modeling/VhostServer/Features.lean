import VhostServer.Lifecycle

/-!
# Feature negotiation

The device offers `g_default_features | type->get_features()` each time the
master asks (`GET_FEATURES`). It keeps of `SET_FEATURES` only what it offered,
and drops the protocol features it does not support (`SET_PROTOCOL_FEATURES`).
No other handler or callback writes a feature word. So for a device type whose
`get_features` always returns the same word, every run keeps
`negotiated ⊆ supported ⊆ default | get_features()` and
`negotiated_protocol ⊆ supported_protocol` (`reachable_features_within`),
whatever the master sends, in whatever order, and across reconnects.
-/

namespace VhostServer

/-! ## Feature words -/

/-- `sub` sets no bit that `sup` does not set. -/
def FeatureSubset (sub sup : UInt64) : Prop := sub &&& sup = sub

instance : DecidableRel FeatureSubset := fun sub sup => inferInstanceAs (Decidable (sub &&& sup = sub))

namespace FeatureSubset

theorem refl (a : UInt64) : FeatureSubset a a := UInt64.eq_of_toBitVec_eq BitVec.and_self

theorem zero (a : UInt64) : FeatureSubset 0 a := UInt64.eq_of_toBitVec_eq BitVec.zero_and

theorem and_assoc (a b c : UInt64) : a &&& b &&& c = a &&& (b &&& c) :=
  UInt64.eq_of_toBitVec_eq (BitVec.and_assoc _ _ _)

theorem trans {a b c : UInt64} (ab : FeatureSubset a b) (bc : FeatureSubset b c) :
    FeatureSubset a c :=
  calc a &&& c = a &&& b &&& c := by rw [ab]
    _ = a &&& (b &&& c) := and_assoc a b c
    _ = a := by rw [bc, ab]

/-- Masking with `mask` leaves no bit outside `mask`. -/
theorem and_right (word mask : UInt64) : FeatureSubset (word &&& mask) mask := by
  unfold FeatureSubset
  rw [and_assoc, refl mask]

/-- A word with no bit in the complement of `mask` has no bit outside it. -/
theorem of_and_not_eq_zero {word mask : UInt64} (outside : word &&& ~~~mask = 0) :
    FeatureSubset word mask := by
  have bits : word.toBitVec &&& ~~~mask.toBitVec = 0#64 := congrArg UInt64.toBitVec outside
  apply UInt64.eq_of_toBitVec_eq
  show word.toBitVec &&& mask.toBitVec = word.toBitVec
  ext i
  have bit := congrArg (fun v : BitVec 64 => v.getLsbD i) bits
  simp only [BitVec.getLsbD_and, BitVec.getLsbD_not, BitVec.getLsbD_zero] at bit ⊢
  cases hw : word.toBitVec.getLsbD i <;> cases hm : mask.toBitVec.getLsbD i <;> simp_all

end FeatureSubset

/-- The four feature words of a device. -/
structure FeatureWords where
  supported : UInt64
  negotiated : UInt64
  supportedProtocol : UInt64
  negotiatedProtocol : UInt64

/-- The feature words of `vdev`. -/
def Vdev.featureWords (vdev : Vdev) : FeatureWords :=
  ⟨vdev.supportedFeatures, vdev.negotiatedFeatures, vdev.supportedProtocolFeatures,
    vdev.negotiatedProtocolFeatures⟩

/-- The feature invariant of a device whose type offers `features`. -/
structure FeatureWords.Within (features : UInt64) (words : FeatureWords) : Prop where
  negotiated : FeatureSubset words.negotiated words.supported
  supported : FeatureSubset words.supported (gDefaultFeatures ||| features)
  negotiatedProtocol : FeatureSubset words.negotiatedProtocol words.supportedProtocol

theorem FeatureWords.Within.of_keeps {features : UInt64} {w w' : World}
    (h : w.vdev.featureWords.Within features)
    (keeps : w'.vdev.featureWords = w.vdev.featureWords) : w'.vdev.featureWords.Within features :=
  keeps ▸ h

/-! ## What keeps the feature words -/

section Keeps

variable (w : World)

theorem OnlyMemory.featureWords {w' : World} (h : OnlyMemory w w') :
    w'.vdev.featureWords = w.vdev.featureWords := by
  rw [h.eq]
  rfl

theorem vhostSendFds_featureWords (msg : Msg) (fds : List Int) (sent : Except Errno Nat) :
    (vhostSendFds w msg fds sent).1.vdev.featureWords = w.vdev.featureWords := by
  unfold vhostSendFds
  split
  · rfl
  · split_ifs <;> rfl

theorem vhostSendReply_featureWords (msgin : Msg) (u64 : UInt64) (sent : Except Errno Nat) :
    (vhostSendReply w msgin u64 sent).1.vdev.featureWords = w.vdev.featureWords :=
  vhostSendFds_featureWords w _ _ sent

theorem vhostSetMemTable_featureWords (msg : Msg) (fds : List Int) (env : Env) :
    (vhostSetMemTable w msg fds env).1.vdev.featureWords = w.vdev.featureWords := by
  unfold vhostSetMemTable
  dsimp only
  split_ifs
  · rfl
  · exact OnlyMemory.featureWords w (vhostSetMemTableLoop_onlyMemory env _ fds _ 0 w)

theorem vringSetEnable_featureWords (env : Env) (index : Nat) (vring : Vring) (doEnable : Bool) :
    (vringSetEnable w env index vring doEnable).1.vdev.featureWords = w.vdev.featureWords := by
  unfold vringSetEnable
  split_ifs
  · rfl
  · unfold vringEnable
    dsimp only
    split_ifs <;> rfl
  · rfl

theorem vhostSetVringFdCommon_featureWords (msg : Msg) (fd : Int) (type : VringDescType)
    (env : Env) : (vhostSetVringFdCommon w msg fd type env).1.vdev.featureWords = w.vdev.featureWords := by
  unfold vhostSetVringFdCommon
  dsimp only
  split_ifs
  · rfl
  · split
    · rfl
    · split
      · split_ifs
        · exact vringSetEnable_featureWords _ env _ _ true
        · rfl
      · rfl
      · rfl

theorem vhostSetVringState_featureWords (msg : Msg)
    (store : VringClientInfo → UInt32 → VringClientInfo) :
    (vhostSetVringState w msg store).1.vdev.featureWords = w.vdev.featureWords := by
  unfold vhostSetVringState
  dsimp only
  split <;> rfl

theorem vhostGetVringBase_featureWords (msg : Msg) (env : Env) :
    (vhostGetVringBase w msg env).1.vdev.featureWords = w.vdev.featureWords := by
  unfold vhostGetVringBase
  dsimp only
  split
  · rfl
  · have stopped := vringSetEnable_featureWords w env
    split
    · split
      · exact stopped ..
      · exact (vhostSendReply_featureWords ..).trans (stopped ..)
    · split
      · rfl
      · exact vhostSendReply_featureWords ..

theorem vhostSetVringAddr_featureWords (msg : Msg) :
    (vhostSetVringAddr w msg).1.vdev.featureWords = w.vdev.featureWords := by
  unfold vhostSetVringAddr
  dsimp only
  split
  · rfl
  · split_ifs <;> rfl

theorem vhostSetVringEnable_featureWords (msg : Msg) (env : Env) :
    (vhostSetVringEnable w msg env).1.vdev.featureWords = w.vdev.featureWords := by
  unfold vhostSetVringEnable
  dsimp only
  split
  · rfl
  · exact vringSetEnable_featureWords w env _ _ _

theorem inflightHeaderLoop_featureWords (qsize : UInt16) (per : UInt64) :
    ∀ (remaining : Nat) (buf : UInt64) (w : World),
      (inflightHeaderLoop qsize per remaining buf w).vdev.featureWords = w.vdev.featureWords
  | 0, _, _ => rfl
  | remaining + 1, _, _ => inflightHeaderLoop_featureWords qsize per remaining _ _

theorem vhdVdevInflightCleanup_featureWords :
    (vhdVdevInflightCleanup w).vdev.featureWords = w.vdev.featureWords := by
  unfold vhdVdevInflightCleanup
  split_ifs <;> rfl

theorem inflightMmapRegion_featureWords (fd : Int) (size : UInt64) (mapped : Except Errno MapAddr) :
    (inflightMmapRegion w fd size mapped).1.vdev.featureWords = w.vdev.featureWords := by
  unfold inflightMmapRegion
  split <;> rfl

theorem vhostGetInflightFd_featureWords (msg : Msg) (env : Env) :
    (vhostGetInflightFd w msg env).1.vdev.featureWords = w.vdev.featureWords := by
  have cleaned := vhdVdevInflightCleanup_featureWords w
  have mapped := inflightMmapRegion_featureWords
  have emitted : ∀ (w' : World) (effect : Effect),
      (w'.emit effect).vdev.featureWords = w'.vdev.featureWords := fun _ _ => rfl
  have forgotten : ∀ (sent : World) (unmapped : Effect) (fd : Int),
      (({ sent.emit unmapped with vdev.inflightfd := -1, vdev.inflightMem := 0 } : World).close
        fd).vdev.featureWords = sent.vdev.featureWords := fun _ _ _ => rfl
  unfold vhostGetInflightFd
  dsimp only
  split
  · exact cleaned
  · split
    · exact cleaned
    · split_ifs
      · exact (mapped ..).trans cleaned
      · rw [forgotten]
        exact ((((vhostSendFds_featureWords ..).trans (inflightHeaderLoop_featureWords ..)).trans
          (emitted ..)).trans (mapped ..)).trans cleaned
      · exact ((((vhostSendFds_featureWords ..).trans (inflightHeaderLoop_featureWords ..)).trans
          (emitted ..)).trans (mapped ..)).trans cleaned

theorem vhostSetInflightFd_featureWords (msg : Msg) (fds : List Int) (env : Env) :
    (vhostSetInflightFd w msg fds env).1.vdev.featureWords = w.vdev.featureWords := by
  unfold vhostSetInflightFd
  dsimp only
  split <;> exact (inflightMmapRegion_featureWords ..).trans (vhdVdevInflightCleanup_featureWords w)

theorem vhostAckRequestIfNeeded_featureWords (msg : Msg) (ret : Int) (env : Env) :
    (vhostAckRequestIfNeeded w msg ret env).1.vdev.featureWords = w.vdev.featureWords := by
  unfold vhostAckRequestIfNeeded
  split_ifs
  any_goals rfl
  exact vhostSendReply_featureWords ..

theorem dropConnection_featureWords : (dropConnection w).vdev.featureWords = w.vdev.featureWords := by
  have memory :=
    OnlyMemory.featureWords _ (vhdGuestMemoryUnmapAll_onlyMemory (w.delVhostEvent w.vdev.connfd))
  unfold dropConnection
  dsimp only
  generalize vhdGuestMemoryUnmapAll (w.delVhostEvent w.vdev.connfd) = unmapped at memory ⊢
  have uninit := foldl_vhdVringUninit_vdev (List.range unmapped.vdev.maxQueues.toNat)
    { unmapped with vdev.isOwned := false }
  generalize List.foldl vhdVringUninit _ _ = disabled at uninit ⊢
  show disabled.vdev.featureWords = _
  rw [uninit]
  exact memory

theorem changeDeviceState_featureWords (newState : VdevState) (env : Env) :
    (changeDeviceState w newState env).1.vdev.featureWords = w.vdev.featureWords := by
  have armed : ∀ w', (armListen w' env).1.vdev.featureWords = w'.vdev.featureWords := fun w' => by
    rcases armListen_cases w' env with ⟨listening, -⟩ | ⟨listening, -⟩ <;> rw [listening]
    rfl
  unfold changeDeviceState
  split
  · exact (armed _).trans (dropConnection_featureWords w)
  · exact armed w
  · split_ifs <;> rfl
  · rfl

theorem serverRead_featureWords (env : Env) :
    (serverRead w env).1.vdev.featureWords = w.vdev.featureWords := by
  unfold serverRead
  split
  · rfl
  · rename_i connfd _
    split
    · rfl
    · rfl
    · dsimp only
      have changed := changeDeviceState_featureWords { w with vdev.connfd := connfd } .connected env
      split_ifs
      · exact changed
      · exact changed

theorem vringIoEvent_featureWords (env : Env) (index : Nat) :
    (vringIoEvent w env index).1.vdev.featureWords = w.vdev.featureWords := by
  rcases vringIoEvent_cases w env index with unchanged | ⟨vring, -, -, advanced⟩
  · rw [unchanged]
  · rw [advanced]
    rfl

end Keeps

/-! ## The three feature handlers -/

section Handlers

variable {features : UInt64} {w : World} (h : w.vdev.featureWords.Within features)
include h

/-- `GET_FEATURES` offers `g_default_features | get_features()`, which keeps
what was negotiated from an earlier offer inside the new one. -/
theorem vhostGetFeatures_within (msg : Msg) {env : Env} (offered : env.getFeatures = features) :
    (vhostGetFeatures w msg env).1.vdev.featureWords.Within features := by
  unfold vhostGetFeatures
  dsimp only
  rw [vhostSendReply_featureWords, offered]
  exact ⟨h.negotiated.trans h.supported, .refl _, h.negotiatedProtocol⟩

theorem vhostSetFeatures_within (msg : Msg) :
    (vhostSetFeatures w msg).1.vdev.featureWords.Within features :=
  ⟨.and_right _ _, h.supported, h.negotiatedProtocol⟩

theorem vhostSetProtocolFeatures_within (msg : Msg) :
    (vhostSetProtocolFeatures w msg).1.vdev.featureWords.Within features := by
  unfold vhostSetProtocolFeatures
  dsimp only
  refine ⟨h.negotiated, h.supported, ?_⟩
  split_ifs with outside
  · exact .and_right _ _
  · exact .of_and_not_eq_zero (by simpa using outside)

/-- Every message keeps the feature invariant, for a device type whose
`get_features` returns `features`. -/
theorem vhostHandleRequest_within (msg : Msg) (fds : List Int) {env : Env}
    (offered : env.getFeatures = features) :
    (vhostHandleRequest w msg fds env).1.vdev.featureWords.Within features := by
  unfold vhostHandleRequest
  dsimp only
  refine FeatureWords.Within.of_keeps ?_ (vhostAckRequestIfNeeded_featureWords ..)
  unfold vhostDispatch
  dsimp only
  split
  next => exact vhostGetFeatures_within h msg offered
  next => exact vhostSetFeatures_within h msg
  next => exact h
  next => exact h
  next => exact h.of_keeps (vhostSendReply_featureWords ..)
  next => exact vhostSetProtocolFeatures_within h msg
  next => exact h.of_keeps (vhostSendFds_featureWords ..)
  next => exact h
  next => exact h.of_keeps (vhostSetMemTable_featureWords ..)
  next => exact h.of_keeps (vhostSendReply_featureWords ..)
  next => exact h.of_keeps (vhostSetVringFdCommon_featureWords ..)
  next => exact h.of_keeps (vhostSetVringFdCommon_featureWords ..)
  next => exact h.of_keeps (vhostSetVringFdCommon_featureWords ..)
  next => exact h.of_keeps (vhostSetVringState_featureWords ..)
  next => exact h.of_keeps (vhostSetVringState_featureWords ..)
  next => exact h.of_keeps (vhostGetVringBase_featureWords ..)
  next => exact h.of_keeps (vhostSetVringAddr_featureWords ..)
  next => exact h.of_keeps (vhostSetVringEnable_featureWords ..)
  iterate 12 exact h
  next => exact h.of_keeps (vhostGetInflightFd_featureWords ..)
  next => exact h.of_keeps (vhostSetInflightFd_featureWords ..)
  all_goals exact h

/-- Every callback keeps the feature invariant. -/
theorem deliver_within {env : Env} (offered : env.getFeatures = features) :
    ∀ event : Event, (deliver w env event).1.vdev.featureWords.Within features
  | .serverRead => h.of_keeps (serverRead_featureWords w env)
  | .serverClose => h
  | .connRead incoming => by
    unfold deliver connRead
    dsimp only
    split_ifs
    · exact h
    · exact vhostHandleRequest_within h _ _ offered
  | .connClose => h.of_keeps (changeDeviceState_featureWords w .listening env)
  | .vringIo index => h.of_keeps (vringIoEvent_featureWords w env index)

end Handlers

/-! ## Every run -/

/-- The runs of a device whose type answers `get_features` with `features` on
every call: `Reachable` with the environment's `getFeatures` fixed. -/
inductive ReachableWith (features : UInt64) : World → Prop
  | init {maxQueues : UInt32} {listenfd : Int} {env : Env} {w : World} :
      vhdVdevInitServer maxQueues listenfd env = some (w, 0) → ReachableWith features w
  | step {w : World} {event : Event} {env : Env} :
      ReachableWith features w → event.Deliverable w → env.getFeatures = features →
      ReachableWith features (deliver w env event).1

namespace ReachableWith

variable {features : UInt64} {w : World}

theorem reachable (h : ReachableWith features w) : Reachable w := by
  induction h with
  | init start => exact .init start
  | step _ deliverable _ ih => exact .step ih deliverable

theorem serverRead (h : ReachableWith features w) {env : Env} (offered : env.getFeatures = features)
    (watched : ∃ source ∈ w.vhostEvents, source.ops = .server) :
    ReachableWith features (VhostServer.serverRead w env).1 :=
  @ReachableWith.step features w .serverRead env h watched offered

theorem connRead (h : ReachableWith features w) {env : Env} (offered : env.getFeatures = features)
    (incoming : Incoming) (watched : ∃ source ∈ w.vhostEvents, source.ops = .conn) :
    ReachableWith features (VhostServer.connRead w incoming env).1 :=
  @ReachableWith.step features w (.connRead incoming) env h watched offered

end ReachableWith

/-- For a device type whose `get_features` always returns `features`, every run
keeps the negotiated features inside the supported ones, the supported ones
inside `g_default_features | features`, and the negotiated protocol features
inside the supported ones. -/
theorem reachable_features_within {features : UInt64} {w : World}
    (h : ReachableWith features w) :
    FeatureSubset w.vdev.negotiatedFeatures w.vdev.supportedFeatures ∧
      FeatureSubset w.vdev.supportedFeatures (gDefaultFeatures ||| features) ∧
      FeatureSubset w.vdev.negotiatedProtocolFeatures w.vdev.supportedProtocolFeatures := by
  have within : w.vdev.featureWords.Within features := by
    induction h with
    | init start =>
      rw [vhdVdevInitServer_eq start]
      exact ⟨.zero _, .zero _, .zero _⟩
    | step _ _ offered ih => exact deliver_within ih offered _
  exact ⟨within.negotiated, within.supported, within.negotiatedProtocol⟩

/-! ## A master that asks for everything -/

/-- `GET_FEATURES`. -/
def getFeaturesMsg : Msg := { req := .getFeatures, flags := 1, size := 0, payload := default }

/-- `SET_FEATURES` with every bit set. -/
def setAllFeatures : Msg :=
  { req := .setFeatures, flags := 1, size := 8,
    payload := { (default : Payload) with u64 := 0xFFFFFFFFFFFFFFFF } }

/-- `SET_PROTOCOL_FEATURES` with every bit set. -/
def setAllProtocolFeatures : Msg :=
  { req := .setProtocolFeatures, flags := 1, size := 8,
    payload := { (default : Payload) with u64 := 0xFFFFFFFFFFFFFFFF } }

/-- The first master asks for the features, then sets every feature bit and
every protocol feature bit. -/
def allFeaturesSet : World :=
  let offered := (connRead firstMaster (.whole getFeaturesMsg none) Env.calm).1
  let set := (connRead offered (.whole setAllFeatures none) Env.calm).1
  (connRead set (.whole setAllProtocolFeatures none) Env.calm).1

theorem allFeaturesSet_within :
    ReachableWith Env.calm.getFeatures allFeaturesSet ∧
      (FeatureSubset allFeaturesSet.vdev.negotiatedFeatures allFeaturesSet.vdev.supportedFeatures ∧
        FeatureSubset allFeaturesSet.vdev.supportedFeatures
          (gDefaultFeatures ||| Env.calm.getFeatures) ∧
        FeatureSubset allFeaturesSet.vdev.negotiatedProtocolFeatures
          allFeaturesSet.vdev.supportedProtocolFeatures) :=
  have connected : ReachableWith Env.calm.getFeatures firstMaster :=
    (@ReachableWith.init _ 1 3 Env.calm _ rfl).serverRead rfl ⟨⟨3, .server⟩, by decide, rfl⟩
  have reach : ReachableWith Env.calm.getFeatures allFeaturesSet :=
    ((connected.connRead rfl _ ⟨⟨4, .conn⟩, by decide, rfl⟩).connRead rfl _
      ⟨⟨4, .conn⟩, by decide, rfl⟩).connRead rfl _ ⟨⟨4, .conn⟩, by decide, rfl⟩
  ⟨reach, reachable_features_within reach⟩

end VhostServer
