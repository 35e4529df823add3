import VhostServer.Vring

/-!
# The protocol engine

The message handlers of `vdev.c`, `vhost_ack_request_if_needed`, and
`vhost_handle_request`, which switches on the request, runs one handler and
then decides on the acknowledgement.

Two handlers write into the message they were given before the
acknowledgement reads it: `vhost_get_config` and `vhost_get_inflight_fd` turn
it into their reply. They return the rewritten message, and the dispatcher
passes it on as the source passes its pointer.
-/

namespace VhostServer

/-! ## Sending -/

/-- `vhost_send_fds` over `net_send_msg_fds`: `0` once header and payload have
all gone out, `-errno` or `-EIO` otherwise. `sent` answers `sendmsg`. -/
def vhostSendFds (w : World) (msg : Msg) (fds : List Int) (sent : Except Errno Nat) :
    World × Int :=
  let w := w.emit (.send w.vdev.connfd msg fds)
  match sent with
  | .error errno => (w, -errno.val)
  | .ok len => if len != vhostMsgHdrSize + msg.size.toNat then (w, - EIO) else (w, 0)

/-- `vhost_send`. -/
def vhostSend (w : World) (msg : Msg) (sent : Except Errno Nat) : World × Int :=
  vhostSendFds w msg [] sent

/-- `vhost_send_reply`: a `u64` reply to `msgin`. -/
def vhostSendReply (w : World) (msgin : Msg) (u64 : UInt64) (sent : Except Errno Nat) :
    World × Int :=
  vhostSend w (replyMsg msgin u64) sent

/-! ## Features and ownership -/

/-- `vhost_get_protocol_features`. -/
def vhostGetProtocolFeatures (w : World) (msg : Msg) (env : Env) : World × Int :=
  vhostSendReply w msg w.vdev.supportedProtocolFeatures env.sendReply

/-- `vhost_set_protocol_features`: unsupported bits are dropped. -/
def vhostSetProtocolFeatures (w : World) (msg : Msg) : World × Int :=
  let feats := msg.payload.u64
  let feats :=
    if feats &&& ~~~w.vdev.supportedProtocolFeatures != 0 then
      feats &&& w.vdev.supportedProtocolFeatures
    else feats
  ({ w with vdev.negotiatedProtocolFeatures := feats }, 0)

/-- `vhost_get_features`: the supported set is recomputed from the device type
on every call. -/
def vhostGetFeatures (w : World) (msg : Msg) (env : Env) : World × Int :=
  let w := { w with vdev.supportedFeatures := gDefaultFeatures ||| env.getFeatures }
  vhostSendReply w msg w.vdev.supportedFeatures env.sendReply

/-- `vhost_set_features`. -/
def vhostSetFeatures (w : World) (msg : Msg) : World × Int :=
  ({ w with vdev.negotiatedFeatures := msg.payload.u64 &&& w.vdev.supportedFeatures }, 0)

/-- `vhost_set_owner`; a second call only warns. -/
def vhostSetOwner (w : World) : World × Int :=
  ({ w with vdev.isOwned := true }, 0)

/-- `vhost_reset_owner`. -/
def vhostResetOwner (w : World) : World × Int := (w, ENOTSUP)

/-! ## Memory table and configuration -/

/-- `close` on each descriptor of `fds`, in order. -/
def closeFds (w : World) (fds : List Int) : World := fds.foldl World.close w

/-- The loop of `vhost_set_mem_table` from region `i`, with `remaining`
regions left: map each; on the first error close the fds of the regions not
processed yet, the failing one included, and unmap every slot. -/
def vhostSetMemTableLoop (env : Env) (desc : MemDesc) (fds : List Int) :
    Nat → Nat → World → World × Int
  | 0, _, w => (w, 0)
  | remaining + 1, i, w =>
    let region := desc.regions.getD i default
    let mapped := mapGuestRegion w i region.guestAddr region.userAddr region.size
      region.mmapOffset (fds.getD i (-1)) (env.mmapRegion i)
    if mapped.2 != 0 then
      let unprocessed := (List.range' i (remaining + 1)).map fun j => fds.getD j (-1)
      (vhdGuestMemoryUnmapAll (closeFds mapped.1 unprocessed), mapped.2)
    else vhostSetMemTableLoop env desc fds remaining (i + 1) mapped.1

/-- `vhost_set_mem_table`. -/
def vhostSetMemTable (w : World) (msg : Msg) (fds : List Int) (env : Env) : World × Int :=
  let desc := msg.payload.memDesc
  if vhostUserMemRegionsMax < desc.nregions.toNat then (w, EINVAL)
  else vhostSetMemTableLoop env desc fds desc.nregions.toNat 0 w

/-- `vhost_get_config`: the device type fills the buffer the master sized, and
the message, rewritten into the reply, is sent back. -/
def vhostGetConfig (w : World) (msg : Msg) (env : Env) : World × Msg × Int :=
  let config := msg.payload.config
  let config := { config with size := (env.getConfig config.size).toUInt32 }
  let msg :=
    { msg with
      flags := vhostUserMsgFlagsReply
      size := configHeaderSize + config.size
      payload.config := config }
  let sent := vhostSend w msg env.sendReply
  (sent.1, msg, sent.2)

/-- `vhost_set_config`. -/
def vhostSetConfig (w : World) : World × Int := (w, ENOTSUP)

/-- `vhost_get_queue_num`. -/
def vhostGetQueueNum (w : World) (msg : Msg) (env : Env) : World × Int :=
  vhostSendReply w msg w.vdev.maxQueues.toUInt64 env.sendReply

/-! ## Vrings -/

/-- `enum vring_desc_type`. -/
inductive VringDescType where
  | kickfd
  | callfd
  | errfd
  deriving DecidableEq, Repr

/-- `vhost_set_vring_fd_common`: the low byte of the payload names the vring,
and the descriptor is stored in the slot `type` names. A kick fd starts the
vring at once unless `VHOST_USER_F_PROTOCOL_FEATURES` was negotiated; a call fd
of an enabled vring is handed to its virtqueue. -/
def vhostSetVringFdCommon (w : World) (msg : Msg) (fd : Int) (type : VringDescType)
    (env : Env) : World × Int :=
  let vringIdx : UInt8 := (msg.payload.u64 &&& vhostVringIdxMask).toUInt8
  let hasFd := msg.payload.u64 &&& vhostVringInvalidFd == 0
  if !hasFd then (w, ENOTSUP)
  else
    match getVring w.vdev vringIdx.toUInt32 with
    | none => (w, EINVAL)
    | some vring =>
      match type with
      | .kickfd =>
        let vring := { vring with kickfd := fd }
        let w := w.setVring vringIdx.toNat vring
        if !hasFeature w.vdev.negotiatedFeatures vhostUserFProtocolFeatures then
          vringSetEnable w env vringIdx.toNat vring true
        else (w, 0)
      | .callfd =>
        let vq := if vring.isEnabled then vring.vq.setNotifyFd fd else vring.vq
        (w.setVring vringIdx.toNat { vring with callfd := fd, vq := vq }, 0)
      | .errfd => (w.setVring vringIdx.toNat { vring with errfd := fd }, 0)

/-- `vhost_set_vring_call`. -/
def vhostSetVringCall (w : World) (msg : Msg) (fds : List Int) (env : Env) : World × Int :=
  vhostSetVringFdCommon w msg (fds.getD 0 (-1)) .callfd env

/-- `vhost_set_vring_kick`. -/
def vhostSetVringKick (w : World) (msg : Msg) (fds : List Int) (env : Env) : World × Int :=
  vhostSetVringFdCommon w msg (fds.getD 0 (-1)) .kickfd env

/-- `vhost_set_vring_err`. -/
def vhostSetVringErr (w : World) (msg : Msg) (fds : List Int) (env : Env) : World × Int :=
  vhostSetVringFdCommon w msg (fds.getD 0 (-1)) .errfd env

/-- The body shared by `vhost_set_vring_num` and `vhost_set_vring_base`: store
the payload's `num` into the `client_info` of a vring that is not enabled. -/
def vhostSetVringState (w : World) (msg : Msg)
    (store : VringClientInfo → UInt32 → VringClientInfo) : World × Int :=
  let vrstate := msg.payload.vringState
  match getVringNotEnabled w.vdev vrstate.index with
  | none => (w, EINVAL)
  | some vring =>
    (w.setVring vrstate.index.toNat
      { vring with clientInfo := store vring.clientInfo vrstate.num }, 0)

/-- `vhost_set_vring_num`. -/
def vhostSetVringNum (w : World) (msg : Msg) : World × Int :=
  vhostSetVringState w msg fun info num => { info with num := num }

/-- `vhost_set_vring_base`. -/
def vhostSetVringBase (w : World) (msg : Msg) : World × Int :=
  vhostSetVringState w msg fun info num => { info with base := num }

/-- `vhost_get_vring_base`: reply with the virtqueue's `last_avail`; without
`VHOST_USER_F_PROTOCOL_FEATURES` the vring is also stopped. -/
def vhostGetVringBase (w : World) (msg : Msg) (env : Env) : World × Int :=
  let vrstate := msg.payload.vringState
  match getVring w.vdev vrstate.index with
  | none => (w, EINVAL)
  | some vring =>
    let vqBase := vring.vq.lastAvail
    let stopped :=
      if !hasFeature w.vdev.negotiatedFeatures vhostUserFProtocolFeatures then
        vringSetEnable w env vrstate.index.toNat vring false
      else (w, 0)
    if stopped.2 != 0 then stopped
    else vhostSendReply stopped.1 msg vqBase.toUInt64 env.sendReply

/-- `vhost_set_vring_addr`: translate the three master addresses; all must
hit a live region. -/
def vhostSetVringAddr (w : World) (msg : Msg) : World × Int :=
  let vraddr := msg.payload.vringAddr
  match getVringNotEnabled w.vdev vraddr.index with
  | none => (w, EINVAL)
  | some vring =>
    let descAddr := mapUva w.vdev.guestMemmap vraddr.descAddr
    let usedAddr := mapUva w.vdev.guestMemmap vraddr.usedAddr
    let availAddr := mapUva w.vdev.guestMemmap vraddr.availAddr
    if descAddr == 0 || usedAddr == 0 || availAddr == 0 then (w, EINVAL)
    else
      (w.setVring vraddr.index.toNat
        { vring with clientInfo := { vring.clientInfo with descAddr, usedAddr, availAddr } }, 0)

/-- `vhost_set_vring_enable`: enable exactly when `num` is `1`. -/
def vhostSetVringEnable (w : World) (msg : Msg) (env : Env) : World × Int :=
  let vrstate := msg.payload.vringState
  match getVring w.vdev vrstate.index with
  | none => (w, EINVAL)
  | some vring => vringSetEnable w env vrstate.index.toNat vring (vrstate.num == 1)

/-! ## Inflight region -/

/-- `sizeof(struct inflight_split_region)`: the header of the vhost-user
inflight extension. -/
def inflightSplitRegionSize : UInt64 := 16

/-- `sizeof(struct inflight_split_desc)`. -/
def inflightSplitDescSize : UInt64 := 16

/-- `vring_inflight_buf_size` of a queue of `num` descriptors; its one caller
passes the 16-bit queue size. -/
def vringInflightBufSize (num : UInt16) : UInt64 :=
  inflightSplitRegionSize + num.toUInt64 * inflightSplitDescSize

/-- `inflight_split_region_init`. -/
def inflightSplitRegionInit (qsize : UInt16) : InflightSplitRegion :=
  { features := 0, version := 1, descNum := qsize, lastBatchHead := 0, usedIdx := 0 }

/-- The header loop of `vhost_get_inflight_fd`: one header per queue, `per`
bytes apart, from `buf` on. -/
def inflightHeaderLoop (qsize : UInt16) (per : UInt64) : Nat → UInt64 → World → World
  | 0, _, w => w
  | remaining + 1, buf, w =>
    inflightHeaderLoop qsize per remaining (buf + per)
      (w.emit (.writeInflightHeader buf (inflightSplitRegionInit qsize)))

/-- `vhd_vdev_inflight_cleanup`. `inflight_size` is left as it was. -/
def vhdVdevInflightCleanup (w : World) : World :=
  if w.vdev.inflightfd == -1 then w
  else
    let w := (w.emit (.munmap w.vdev.inflightMem w.vdev.inflightSize)).close w.vdev.inflightfd
    { w with vdev.inflightfd := -1, vdev.inflightMem := 0 }

/-- `inflight_mmap_region`. -/
def inflightMmapRegion (w : World) (fd : Int) (size : UInt64) (mapped : Except Errno MapAddr) :
    World × Int :=
  let w := w.emit (.mmap fd size 0)
  match mapped with
  | .error errno => (w, errno.val)
  | .ok buf =>
    ({ w with vdev.inflightfd := fd, vdev.inflightMem := buf.addr, vdev.inflightSize := size }, 0)

/-- `vhost_get_inflight_fd`: create, size and map a memfd of one region per
queue, zero it, write the headers, and send its fd back in the rewritten
message. A failed send unmaps and forgets the region. -/
def vhostGetInflightFd (w : World) (msg : Msg) (env : Env) : World × Msg × Int :=
  let w := vhdVdevInflightCleanup w
  let idesc := msg.payload.inflightDesc
  let size := vringInflightBufSize idesc.queueSize * idesc.numQueues.toUInt64
  match env.memfdCreate with
  | .error errno => (w, msg, errno.val)
  | .ok fd =>
    match env.ftruncate with
    | .error errno => (w.close fd, msg, errno.val)
    | .ok () =>
      let mapped := inflightMmapRegion w fd size env.mmapInflight
      if mapped.2 != 0 then (mapped.1.close fd, msg, mapped.2)
      else
        let w := mapped.1.emit (.memset mapped.1.vdev.inflightMem mapped.1.vdev.inflightSize)
        let msg :=
          { msg with
            flags := vhostUserMsgFlagsReply
            payload.inflightDesc := { idesc with mmapSize := size, mmapOffset := 0 } }
        let w := inflightHeaderLoop idesc.queueSize (vringInflightBufSize idesc.queueSize)
          idesc.numQueues.toNat w.vdev.inflightMem w
        let sent := vhostSendFds w msg [fd] env.sendReply
        if sent.2 != 0 then
          let w := sent.1.emit (.munmap sent.1.vdev.inflightMem sent.1.vdev.inflightSize)
          (({ w with vdev.inflightfd := -1, vdev.inflightMem := 0 } : World).close fd, msg, sent.2)
        else (sent.1, msg, 0)

/-- `vhost_set_inflight_fd`: adopt the master's fd; close it if it cannot be
mapped. -/
def vhostSetInflightFd (w : World) (msg : Msg) (fds : List Int) (env : Env) : World × Int :=
  let w := vhdVdevInflightCleanup w
  let idesc := msg.payload.inflightDesc
  let fd := fds.getD 0 (-1)
  let mapped := inflightMmapRegion w fd idesc.mmapSize env.mmapInflight
  if mapped.2 != 0 then (mapped.1.close fd, mapped.2) else (mapped.1, 0)

/-! ## Dispatch -/

/-- The getters whose explicit reply, once sent, stands in for the
acknowledgement: the `case` labels of `vhost_ack_request_if_needed`. -/
def Request.repliesExplicitly : Request → Bool
  | .getFeatures | .getProtocolFeatures | .getConfig | .getQueueNum | .getVringBase => true
  | _ => false

/-- `vhost_ack_request_if_needed`: with `REPLY_ACK` negotiated and asked for,
send the handler's status, unless an explicit reply already went out. -/
def vhostAckRequestIfNeeded (w : World) (msg : Msg) (ret : Int) (env : Env) : World × Int :=
  if !hasFeature w.vdev.negotiatedProtocolFeatures vhostUserProtocolFReplyAck then (w, 0)
  else if msg.flags &&& vhostUserMsgFlagsReplyAck == 0 then (w, 0)
  else if ret == 0 && msg.req.repliesExplicitly then (w, 0)
  else vhostSendReply w msg (intToUInt64 ret) env.sendAck

/-- The `switch` of `vhost_handle_request`: run the handler of `msg.req`, and
return the message as the handler left it. -/
def vhostDispatch (w : World) (msg : Msg) (fds : List Int) (env : Env) : World × Msg × Int :=
  let keep : World × Int → World × Msg × Int := fun result => (result.1, msg, result.2)
  match msg.req with
  | .getFeatures => keep (vhostGetFeatures w msg env)
  | .setFeatures => keep (vhostSetFeatures w msg)
  | .setOwner => keep (vhostSetOwner w)
  | .resetOwner => keep (vhostResetOwner w)
  | .getProtocolFeatures => keep (vhostGetProtocolFeatures w msg env)
  | .setProtocolFeatures => keep (vhostSetProtocolFeatures w msg)
  | .getConfig => vhostGetConfig w msg env
  | .setConfig => keep (vhostSetConfig w)
  | .setMemTable => keep (vhostSetMemTable w msg fds env)
  | .getQueueNum => keep (vhostGetQueueNum w msg env)
  | .setVringCall => keep (vhostSetVringCall w msg fds env)
  | .setVringKick => keep (vhostSetVringKick w msg fds env)
  | .setVringErr => keep (vhostSetVringErr w msg fds env)
  | .setVringNum => keep (vhostSetVringNum w msg)
  | .setVringBase => keep (vhostSetVringBase w msg)
  | .getVringBase => keep (vhostGetVringBase w msg env)
  | .setVringAddr => keep (vhostSetVringAddr w msg)
  | .setVringEnable => keep (vhostSetVringEnable w msg env)
  | .setLogBase | .setLogFd | .sendRarp | .netSetMtu | .setSlaveReqFd | .iotlbMsg
  | .setVringEndian | .createCryptoSession | .closeCryptoSession | .postcopyAdvise
  | .postcopyListen | .postcopyEnd => (w, msg, ENOTSUP)
  | .getInflightFd => vhostGetInflightFd w msg env
  | .setInflightFd => keep (vhostSetInflightFd w msg fds env)
  | .none | .other _ => (w, msg, EINVAL)

/-- `vhost_handle_request`: dispatch, then acknowledge; a failed
acknowledgement overrides the handler's status. -/
def vhostHandleRequest (w : World) (msg : Msg) (fds : List Int) (env : Env) : World × Int :=
  let handled := vhostDispatch w msg fds env
  let acked := vhostAckRequestIfNeeded handled.1 handled.2.1 handled.2.2 env
  (acked.1, if acked.2 != 0 then acked.2 else handled.2.2)

end VhostServer
