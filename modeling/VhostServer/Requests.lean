import VhostServer.Lifecycle

/-!
# Framing and acknowledgement of requests

`net_recv_msg` checks that the header and then exactly `size` payload bytes
arrive, but never checks `size` itself: every message that arrives whole goes
to the protocol engine (`connRead_whole`), so a handler may read payload bytes
that did not come with the message.

`vhost_ack_request_if_needed` reads the flags of the message as the handler
left them. `GET_CONFIG` and `GET_INFLIGHT_FD` build their reply in place and
set the flags to `REPLY`, which clears `REPLY_ACK`: neither is ever
acknowledged, not even when its own reply could not be sent.
-/

namespace VhostServer

/-! ## Framing -/

/-- `net_recv_msg` accepts a message that arrives whole, whatever its `size`:
it returns the byte count and the received descriptors, padded with `-1`. -/
theorem netRecvMsg_whole (msg : Msg) (fds : Option (List Int)) (stack : List Int) :
    netRecvMsg (.whole msg fds) stack =
      (((vhostMsgHdrSize + msg.size.toNat : Nat) : Int),
        match fds with
        | some received => (received ++ List.replicate vhostUserMaxFds (-1)).take vhostUserMaxFds
        | none => stack) := by
  cases fds <;> simp [netRecvMsg, Incoming.whole]

/-- `conn_read` hands every message that arrives whole to the protocol engine,
whatever the `size` of its header. -/
theorem connRead_whole (w : World) (msg : Msg) (fds : Option (List Int)) (env : Env) :
    connRead w (.whole msg fds) env =
      vhostHandleRequest w msg (netRecvMsg (.whole msg fds) env.uninitializedFds).2 env := by
  unfold connRead
  rw [if_neg (by rw [netRecvMsg_whole]; omega)]
  rfl

/-- A `SET_VRING_KICK` whose header announces no payload still starts vring 0:
the handler reads its index from payload bytes the message did not carry. -/
theorem emptyKick_starts_vring :
    (connRead firstMaster (.whole { kickVringZero with size := 0 } (some [5])) Env.calm).2 = 0 ∧
      (connRead firstMaster (.whole { kickVringZero with size := 0 } (some [5]))
        Env.calm).1.vdev.vrings.map (·.isEnabled) = [true] := by
  decide

/-! ## Acknowledgement -/

/-- A message whose flags were set to `REPLY` is never acknowledged. -/
theorem vhostAckRequestIfNeeded_of_reply (w : World) {msg : Msg} (ret : Int) (env : Env)
    (reply : msg.flags = vhostUserMsgFlagsReply) :
    vhostAckRequestIfNeeded w msg ret env = (w, 0) := by
  unfold vhostAckRequestIfNeeded
  rw [reply]
  split_ifs with _ cleared
  · rfl
  · rfl
  · rfl
  · exact absurd (by decide) cleared

/-- `vhost_handle_request` never acknowledges a `GET_CONFIG`: the handler sets
the flags to `REPLY` before the decision is made, whatever flags the master
sent and whether or not the reply went out. -/
theorem vhostHandleRequest_getConfig (w : World) (msg : Msg) (fds : List Int) (env : Env)
    (getConfig : msg.req = .getConfig) :
    vhostHandleRequest w msg fds env =
      ((vhostGetConfig w msg env).1, (vhostGetConfig w msg env).2.2) := by
  unfold vhostHandleRequest vhostDispatch
  simp only [getConfig]
  rw [vhostAckRequestIfNeeded_of_reply _ _ env rfl]
  rfl

/-- `GET_CONFIG` asking for an acknowledgement. -/
def getConfigAcked : Msg :=
  { req := .getConfig, flags := 1 ||| vhostUserMsgFlagsReplyAck, size := 12, payload := default }

/-- `REPLY_ACK` is negotiated and asked for, and the reply to `GET_CONFIG`
fails with `EPIPE`: the request fails, and the failed reply is the only send. -/
theorem getConfig_failed_reply_unacked :
    hasFeature replyAckNegotiated.vdev.negotiatedProtocolFeatures
        vhostUserProtocolFReplyAck = true ∧
      getConfigAcked.flags &&& vhostUserMsgFlagsReplyAck ≠ 0 ∧
      (connRead replyAckNegotiated (.whole getConfigAcked none)
        { Env.calm with sendReply := .error ⟨32, by decide⟩ }).2 = -32 ∧
      (connRead replyAckNegotiated (.whole getConfigAcked none)
        { Env.calm with sendReply := .error ⟨32, by decide⟩ }).1.effects.length =
        replyAckNegotiated.effects.length + 1 := by
  decide

end VhostServer
