import VhostServer.Inflight

/-!
# What a request sends back

Every message the device sends is sent while it handles a request, by
`vhost_send_fds`: the explicit reply of a getter, the rewritten message of
`GET_CONFIG` and `GET_INFLIGHT_FD`, and the acknowledgement of
`vhost_ack_request_if_needed`. `Sends w w' sent` says that the calls a step
appends to the log send exactly `sent`.

For every request, every answer of the environment and every state, handling
the request sends at most two messages, each a reply to that request on the
connection; and when it sends two, the first is the handler's own reply, which
did not go out whole, and the second the acknowledgement of the status the
handler returned (`vhostHandleRequest_replies`). The master never receives
two complete replies to one request: a successful explicit reply suppresses
the acknowledgement, by the `case` labels of `vhost_ack_request_if_needed` or
because the handler rewrote the flags to `REPLY`.
-/

namespace VhostServer

/-- The socket and the message of a call that sends one. -/
def Effect.sent : Effect → Option (Int × Msg)
  | .send sock msg _ => some (sock, msg)
  | _ => none

/-- `w'` is `w` with calls appended that send exactly `sent`, in order. -/
def Sends (w w' : World) (sent : List (Int × Msg)) : Prop :=
  ∃ calls, w'.effects = w.effects ++ calls ∧ calls.filterMap Effect.sent = sent

namespace Sends

theorem of_effects {w w' : World} (same : w'.effects = w.effects) : Sends w w' [] :=
  ⟨[], by rw [same, List.append_nil], rfl⟩

theorem refl (w : World) : Sends w w [] := of_effects rfl

theorem trans {w₁ w₂ w₃ : World} {first second : List (Int × Msg)} (h₁ : Sends w₁ w₂ first)
    (h₂ : Sends w₂ w₃ second) : Sends w₁ w₃ (first ++ second) := by
  obtain ⟨calls₁, effects₁, sent₁⟩ := h₁
  obtain ⟨calls₂, effects₂, sent₂⟩ := h₂
  exact ⟨calls₁ ++ calls₂, by rw [effects₂, effects₁, List.append_assoc],
    by rw [List.filterMap_append, sent₁, sent₂]⟩

theorem emit (w : World) (effect : Effect) : Sends w (w.emit effect) effect.sent.toList :=
  ⟨[effect], rfl, by cases effect <;> rfl⟩

/-- Appending quiet calls after a step keeps what it sent. -/
theorem quiet {w₁ w₂ w₃ : World} {sent : List (Int × Msg)} (h₁ : Sends w₁ w₂ sent)
    (h₂ : Sends w₂ w₃ []) : Sends w₁ w₃ sent := by
  simpa using h₁.trans h₂

end Sends

theorem KeepsVrings.connfd {w w' : World} (h : KeepsVrings w w') : w'.vdev.connfd = w.vdev.connfd :=
  congrArg Connection.connfd h.connection

theorem HandlerFrame.connfd {w w' : World} (h : HandlerFrame w w') :
    w'.vdev.connfd = w.vdev.connfd :=
  congrArg Connection.connfd h.connection

/-! ## Handlers that send nothing -/

theorem closeFds_sends (w : World) (fds : List Int) : Sends w (closeFds w fds) [] := by
  induction fds generalizing w with
  | nil => exact .refl w
  | cons fd rest ih => exact (Sends.emit w (.close fd)).quiet (ih _)

theorem unmapGuestRegion_sends (w : World) (index : Nat) :
    Sends w (unmapGuestRegion w index) [] := by
  unfold unmapGuestRegion
  dsimp only
  split
  · exact ((Sends.emit w (.munmap _ _)).quiet (Sends.emit _ (.close _))).quiet (.of_effects rfl)
  · exact .refl w

theorem vhdGuestMemoryUnmapAll_sends (w : World) : Sends w (vhdGuestMemoryUnmapAll w) [] := by
  unfold vhdGuestMemoryUnmapAll
  generalize List.range vhostUserMemRegionsMax = indices
  induction indices generalizing w with
  | nil => exact .refl w
  | cons index rest ih => exact (unmapGuestRegion_sends w index).quiet (ih _)

theorem mapGuestRegion_sends (w : World) (index : Nat) (guestAddr userAddr size offset : UInt64)
    (fd : Int) (mmapResult : Except Errno MapAddr) :
    Sends w (mapGuestRegion w index guestAddr userAddr size offset fd mmapResult).1 [] := by
  rcases mapGuestRegion_cases w index guestAddr userAddr size offset fd mmapResult with
    ⟨refused, -⟩ | ⟨-, -, -, kept⟩ | ⟨-, _, -, failed⟩ | ⟨-, -, -, _, -, filled⟩
  · rw [refused]; exact .refl w
  · rw [kept]; exact Sends.emit w (.close fd)
  · rw [failed]; exact Sends.emit w (.mmap fd size offset)
  · rw [filled]; exact (Sends.emit w (.mmap fd size offset)).quiet (.of_effects rfl)

theorem vhostSetMemTableLoop_sends (env : Env) (desc : MemDesc) (fds : List Int) :
    ∀ (remaining i : Nat) (w : World), Sends w (vhostSetMemTableLoop env desc fds remaining i w).1 []
  | 0, _, w => .refl w
  | remaining + 1, i, w => by
    unfold vhostSetMemTableLoop
    dsimp only
    split_ifs
    · dsimp only
      exact (mapGuestRegion_sends ..).quiet
        ((closeFds_sends _ _).quiet (vhdGuestMemoryUnmapAll_sends _))
    · exact (mapGuestRegion_sends ..).quiet
        (vhostSetMemTableLoop_sends env desc fds remaining (i + 1) _)

theorem vhostSetMemTable_sends (w : World) (msg : Msg) (fds : List Int) (env : Env) :
    Sends w (vhostSetMemTable w msg fds env).1 [] := by
  unfold vhostSetMemTable
  dsimp only
  split_ifs
  · exact .refl w
  · exact vhostSetMemTableLoop_sends env _ fds _ 0 w

theorem vringSetEnable_effects (w : World) (env : Env) (index : Nat) (vring : Vring)
    (doEnable : Bool) : (vringSetEnable w env index vring doEnable).1.effects = w.effects := by
  unfold vringSetEnable vringEnable vringDisable
  split_ifs <;> rfl

theorem vhostSetVringFdCommon_effects (w : World) (msg : Msg) (fd : Int) (type : VringDescType)
    (env : Env) : (vhostSetVringFdCommon w msg fd type env).1.effects = w.effects := by
  unfold vhostSetVringFdCommon
  dsimp only
  split
  · rfl
  split
  · rfl
  split
  · split
    · exact vringSetEnable_effects ..
    · rfl
  · rfl
  · rfl

theorem vhostSetVringState_effects (w : World) (msg : Msg)
    (store : VringClientInfo → UInt32 → VringClientInfo) :
    (vhostSetVringState w msg store).1.effects = w.effects := by
  unfold vhostSetVringState
  dsimp only
  split <;> rfl

theorem vhostSetVringAddr_effects (w : World) (msg : Msg) :
    (vhostSetVringAddr w msg).1.effects = w.effects := by
  unfold vhostSetVringAddr
  dsimp only
  split
  · rfl
  · split <;> rfl

theorem vhostSetVringEnable_effects (w : World) (msg : Msg) (env : Env) :
    (vhostSetVringEnable w msg env).1.effects = w.effects := by
  unfold vhostSetVringEnable
  dsimp only
  split
  · rfl
  · exact vringSetEnable_effects ..

theorem vhdVdevInflightCleanup_sends (w : World) : Sends w (vhdVdevInflightCleanup w) [] := by
  unfold vhdVdevInflightCleanup
  split
  · exact .refl w
  · exact ((Sends.emit w (.munmap _ _)).quiet (Sends.emit _ (.close _))).quiet (.of_effects rfl)

theorem inflightMmapRegion_sends (w : World) (fd : Int) (size : UInt64)
    (mapped : Except Errno MapAddr) : Sends w (inflightMmapRegion w fd size mapped).1 [] := by
  unfold inflightMmapRegion
  split
  · exact Sends.emit w (.mmap fd size 0)
  · exact (Sends.emit w (.mmap fd size 0)).quiet (.of_effects rfl)

theorem inflightHeaderLoop_sends (qsize : UInt16) (per : UInt64) :
    ∀ (remaining : Nat) (buf : UInt64) (w : World),
      Sends w (inflightHeaderLoop qsize per remaining buf w) []
  | 0, _, w => .refl w
  | remaining + 1, buf, w =>
    (Sends.emit w (.writeInflightHeader buf _)).quiet (inflightHeaderLoop_sends qsize per remaining _ _)

theorem vhostSetInflightFd_sends (w : World) (msg : Msg) (fds : List Int) (env : Env) :
    Sends w (vhostSetInflightFd w msg fds env).1 [] := by
  have mapped := (vhdVdevInflightCleanup_sends w).quiet
    (inflightMmapRegion_sends _ (fds.getD 0 (-1)) msg.payload.inflightDesc.mmapSize env.mmapInflight)
  unfold vhostSetInflightFd
  dsimp only
  split_ifs
  · exact mapped.quiet (Sends.emit _ (.close _))
  · exact mapped

/-! ## Handlers that reply -/

/-- `vhost_send_fds` returns `0` exactly when `sendmsg` took the whole
message. -/
theorem vhostSendFds_snd_eq_zero (w : World) (msg : Msg) (fds : List Int)
    (sent : Except Errno Nat) :
    (vhostSendFds w msg fds sent).2 = 0 ↔ sent = .ok (vhostMsgHdrSize + msg.size.toNat) := by
  unfold vhostSendFds
  cases sent with
  | error errno => simp [Int.ne_of_gt errno.pos]
  | ok len =>
    by_cases whole : len = vhostMsgHdrSize + msg.size.toNat
    · simp [whole]
    · simp [whole, EIO]

theorem vhostSendFds_sends (w : World) (msg : Msg) (fds : List Int) (sent : Except Errno Nat) :
    Sends w (vhostSendFds w msg fds sent).1 [(w.vdev.connfd, msg)] := by
  rw [vhostSendFds_fst]
  exact Sends.emit w _

/-- What the switch of `vhost_handle_request` sent for `msg`, and what it
returned: the message keeps its request; and either nothing was sent, or one
reply to `msg` on the connection, which went out whole exactly when the
handler returned `0`, and after which a handler that returned `0` has left
nothing to acknowledge. -/
def Replied (w : World) (msg : Msg) (env : Env) (result : World × Msg × Int) : Prop :=
  result.2.1.req = msg.req ∧
    (Sends w result.1 [] ∨
      ∃ reply, Sends w result.1 [(w.vdev.connfd, reply)] ∧ reply.req = msg.req ∧
        reply.flags = vhostUserMsgFlagsReply ∧
        (result.2.2 = 0 ↔ env.sendReply = .ok (vhostMsgHdrSize + reply.size.toNat)) ∧
        (result.2.2 = 0 →
          result.2.1.req.repliesExplicitly = true ∨ result.2.1.flags = vhostUserMsgFlagsReply))

theorem Replied.quiet {w w' : World} {msg : Msg} {env : Env} (ret : Int) (h : Sends w w' []) :
    Replied w msg env (w', msg, ret) :=
  ⟨rfl, .inl h⟩

theorem Replied.of_effects {w w' : World} {msg : Msg} {env : Env} (ret : Int)
    (h : w'.effects = w.effects) : Replied w msg env (w', msg, ret) :=
  .quiet ret (.of_effects h)

/-- A getter whose `u64` reply follows quiet steps that keep the connection. -/
theorem vhostSendReply_replied {w w₀ : World} (quiet : Sends w w₀ [])
    (connfd : w₀.vdev.connfd = w.vdev.connfd) {msg : Msg}
    (explicit : msg.req.repliesExplicitly = true) (u64 : UInt64) (env : Env) :
    Replied w msg env ((vhostSendReply w₀ msg u64 env.sendReply).1, msg,
      (vhostSendReply w₀ msg u64 env.sendReply).2) := by
  refine ⟨rfl, .inr ⟨replyMsg msg u64, ?_, rfl, rfl, vhostSendFds_snd_eq_zero .., fun _ => .inl explicit⟩⟩
  rw [← connfd]
  exact quiet.trans (vhostSendFds_sends ..)

theorem vhostGetVringBase_replied (w : World) {msg : Msg} (env : Env)
    (getVringBase : msg.req = .getVringBase) :
    Replied w msg env ((vhostGetVringBase w msg env).1, msg, (vhostGetVringBase w msg env).2) := by
  have explicit : msg.req.repliesExplicitly = true := by rw [getVringBase]; rfl
  unfold vhostGetVringBase
  dsimp only
  split
  · exact .quiet _ (.refl w)
  rename_i vring _
  have stopped : ∀ doEnable, (vringSetEnable w env msg.payload.vringState.index.toNat vring
      doEnable).1.effects = w.effects ∧ (vringSetEnable w env msg.payload.vringState.index.toNat vring
      doEnable).1.vdev.connfd = w.vdev.connfd := fun doEnable =>
    ⟨vringSetEnable_effects .., (vringSetEnable_frame ..).connfd⟩
  split
  · split
    · exact .of_effects _ (stopped false).1
    · exact vhostSendReply_replied (.of_effects (stopped false).1) (stopped false).2 explicit _ env
  · split
    · exact .quiet _ (.refl w)
    · exact vhostSendReply_replied (.refl w) rfl explicit _ env

theorem vhostGetConfig_replied (w : World) (msg : Msg) (env : Env) :
    Replied w msg env (vhostGetConfig w msg env) :=
  ⟨rfl, .inr ⟨_, vhostSendFds_sends .., rfl, rfl, vhostSendFds_snd_eq_zero .., fun _ => .inr rfl⟩⟩

/-- A reply `vhost_send_fds` sends after quiet steps that keep the connection,
with the status `ret` it returned. -/
theorem vhostSendFds_replied {w w₀ : World} (quiet : Sends w w₀ [])
    (connfd : w₀.vdev.connfd = w.vdev.connfd) {msg reply : Msg} (req : reply.req = msg.req)
    (flags : reply.flags = vhostUserMsgFlagsReply) {fds : List Int} {env : Env} {ret : Int}
    (status : (vhostSendFds w₀ reply fds env.sendReply).2 = ret) :
    Replied w msg env ((vhostSendFds w₀ reply fds env.sendReply).1, reply, ret) := by
  refine ⟨req, .inr ⟨reply, ?_, req, flags, status ▸ vhostSendFds_snd_eq_zero .., fun _ => .inr flags⟩⟩
  rw [← connfd]
  exact quiet.trans (vhostSendFds_sends ..)

/-- Quiet calls after a handler's reply keep what it replied. -/
theorem Replied.quiet_after {w w₁ w₂ : World} {msg reply : Msg} {env : Env} {ret : Int}
    (h : Replied w msg env (w₁, reply, ret)) (after : Sends w₁ w₂ []) :
    Replied w msg env (w₂, reply, ret) := by
  obtain ⟨req, quiet | ⟨sent, sends, rest⟩⟩ := h
  · exact ⟨req, .inl (quiet.quiet after)⟩
  · exact ⟨req, .inr ⟨sent, sends.quiet after, rest⟩⟩

theorem vhostGetInflightFd_replied (w : World) (msg : Msg) (env : Env) :
    Replied w msg env (vhostGetInflightFd w msg env) := by
  have cleaned := vhdVdevInflightCleanup_sends w
  have connfd := vhdVdevInflightCleanup_connfd w
  unfold vhostGetInflightFd
  generalize vhdVdevInflightCleanup w = clean at cleaned connfd ⊢
  dsimp only
  split
  · exact .quiet _ cleaned
  split
  · exact .quiet _ (cleaned.quiet (Sends.emit _ (.close _)))
  rename_i _ fd _ _ _
  generalize region : inflightMmapRegion clean fd _ env.mmapInflight = mapped
  have quiet : Sends w mapped.1 [] := region ▸ cleaned.quiet (inflightMmapRegion_sends ..)
  have mappedConnfd : mapped.1.vdev.connfd = w.vdev.connfd :=
    region ▸ (inflightMmapRegion_keepsVrings ..).connfd.trans connfd
  split
  · exact .quiet _ (quiet.quiet (Sends.emit _ (.close _)))
  generalize loop : inflightHeaderLoop _ _ _ _ _ = headers
  have filled : Sends w headers [] :=
    loop ▸ (quiet.quiet (Sends.emit _ (.memset _ _))).quiet (inflightHeaderLoop_sends ..)
  have filledConnfd : headers.vdev.connfd = w.vdev.connfd :=
    loop ▸ (inflightHeaderLoop_keepsVrings ..).connfd.trans mappedConnfd
  split
  · exact (vhostSendFds_replied filled filledConnfd rfl rfl rfl).quiet_after
      (((Sends.emit _ (.munmap _ _)).quiet (.of_effects rfl)).quiet (Sends.emit _ (.close _)))
  · rename_i succeeded
    exact vhostSendFds_replied filled filledConnfd rfl rfl (by simpa using succeeded)

/-! ## The protocol engine -/

/-- Every handler of the switch of `vhost_handle_request` sends nothing or
one reply, as `Replied` says. -/
theorem vhostDispatch_replied (w : World) (msg : Msg) (fds : List Int) (env : Env) :
    Replied w msg env (vhostDispatch w msg fds env) := by
  have explicit : ∀ {request : Request}, msg.req = request → request.repliesExplicitly = true →
      msg.req.repliesExplicitly = true := fun same replies => same ▸ replies
  unfold vhostDispatch
  dsimp only
  split
  next getFeatures =>
    exact vhostSendReply_replied (.of_effects rfl) rfl (explicit getFeatures rfl) _ env
  next => exact .of_effects _ rfl
  next => exact .of_effects _ rfl
  next => exact .of_effects _ rfl
  next getProtocolFeatures =>
    exact vhostSendReply_replied (.refl w) rfl (explicit getProtocolFeatures rfl) _ env
  next => exact .of_effects _ rfl
  next => exact vhostGetConfig_replied w msg env
  next => exact .of_effects _ rfl
  next => exact .quiet _ (vhostSetMemTable_sends ..)
  next getQueueNum => exact vhostSendReply_replied (.refl w) rfl (explicit getQueueNum rfl) _ env
  next => exact .of_effects _ (vhostSetVringFdCommon_effects ..)
  next => exact .of_effects _ (vhostSetVringFdCommon_effects ..)
  next => exact .of_effects _ (vhostSetVringFdCommon_effects ..)
  next => exact .of_effects _ (vhostSetVringState_effects ..)
  next => exact .of_effects _ (vhostSetVringState_effects ..)
  next getVringBase => exact vhostGetVringBase_replied w env getVringBase
  next => exact .of_effects _ (vhostSetVringAddr_effects ..)
  next => exact .of_effects _ (vhostSetVringEnable_effects ..)
  iterate 12 exact .quiet _ (.refl w)
  next => exact vhostGetInflightFd_replied w msg env
  next => exact .quiet _ (vhostSetInflightFd_sends ..)
  all_goals exact .quiet _ (.refl w)

/-- `vhost_ack_request_if_needed` sends nothing, or the acknowledgement of a
message that asked for one and was not already answered by a successful
explicit reply. -/
theorem vhostAckRequestIfNeeded_sends (w : World) (msg : Msg) (ret : Int) (env : Env) :
    Sends w (vhostAckRequestIfNeeded w msg ret env).1 [] ∨
      msg.flags &&& vhostUserMsgFlagsReplyAck ≠ 0 ∧ ¬(ret = 0 ∧ msg.req.repliesExplicitly = true) ∧
        Sends w (vhostAckRequestIfNeeded w msg ret env).1
          [(w.vdev.connfd, replyMsg msg (intToUInt64 ret))] := by
  unfold vhostAckRequestIfNeeded
  split_ifs with unnegotiated unasked answered
  · exact .inl (.refl w)
  · exact .inl (.refl w)
  · exact .inl (.refl w)
  · refine .inr ⟨by simpa using unasked, fun ⟨zero, replies⟩ => answered (by simp [zero, replies]),
      vhostSendFds_sends ..⟩

/-- The replies of one request, for every state, every message and every
answer of the environment. Handling the request sends at most two messages,
each a reply to the request, with the `REPLY` flag, on the connection. When it
sends two, the first is the reply the handler sent, which `sendmsg` did not
take whole, and the second is the acknowledgement of the handler's status:
the master never receives two complete replies to one request. -/
theorem vhostHandleRequest_replies (w : World) (msg : Msg) (fds : List Int) (env : Env) :
    ∃ replies, Sends w (vhostHandleRequest w msg fds env).1 replies ∧ replies.length ≤ 2 ∧
      (∀ reply ∈ replies, reply.1 = w.vdev.connfd ∧ reply.2.req = msg.req ∧
        reply.2.flags = vhostUserMsgFlagsReply) ∧
      ∀ first second, replies = [first, second] →
        Sends w (vhostDispatch w msg fds env).1 [first] ∧
        second = (w.vdev.connfd, replyMsg (vhostDispatch w msg fds env).2.1
          (intToUInt64 (vhostDispatch w msg fds env).2.2)) ∧
        env.sendReply ≠ .ok (vhostMsgHdrSize + first.2.size.toNat) := by
  have connfd := (vhostDispatch_frame w msg fds env).connfd
  have replied := vhostDispatch_replied w msg fds env
  unfold vhostHandleRequest
  generalize vhostDispatch w msg fds env = handled at connfd replied ⊢
  obtain ⟨handledWorld, handledMsg, ret⟩ := handled
  obtain ⟨sameReq, quiet | ⟨reply, sent, req, flags, whole, suppressed⟩⟩ := replied
  all_goals
    rcases vhostAckRequestIfNeeded_sends handledWorld handledMsg ret env with
      unacked | ⟨asked, unanswered, acked⟩
  · exact ⟨[], quiet.quiet unacked, by simp, by simp, by simp⟩
  · refine ⟨_, quiet.trans acked, by simp, ?_, by simp⟩
    simpa [replyMsg] using ⟨connfd, sameReq⟩
  · exact ⟨_, sent.quiet unacked, by simp, by simpa using ⟨req, flags⟩, by simp⟩
  · refine ⟨_, sent.trans acked, by simp, ?_, fun first second both => ?_⟩
    · simp only [List.mem_append, List.mem_singleton]
      rintro _ (rfl | rfl)
      · exact ⟨rfl, req, flags⟩
      · exact ⟨connfd, sameReq, rfl⟩
    · obtain ⟨rfl, ack⟩ := List.cons_eq_cons.1 both
      obtain ⟨rfl, -⟩ := List.cons_eq_cons.1 ack
      refine ⟨sent, by rw [connfd], fun full => ?_⟩
      have zero : ret = 0 := whole.2 full
      rcases suppressed zero with replies | rewritten
      · exact unanswered ⟨zero, replies⟩
      · exact asked (by rw [rewritten]; decide)

end VhostServer
