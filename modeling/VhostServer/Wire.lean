import Mathlib.Data.List.Basic
import Mathlib.Algebra.Group.Int

/-!
# The vhost-user wire format

This module fixes the values that `vdev.c` reads from and writes to the
connection socket: the message header and its flags, the payload union with one
field per member a handler reads, the request codes the dispatcher switches on,
and the feature bits of the negotiation. The header that declares them is not
among the sources; the values below are those of the vhost-user specification,
which the module docs of `vdev.c` follow (12-byte header, eight regions, eight
descriptors per message).

Error returns follow the C convention of the source: handlers return `0` or a
positive `errno`, I/O helpers return `-errno`. A failed system call is answered
by a positive `Errno`, so no model of the environment can report a failure with
a zero code.
-/

namespace VhostServer

/-- The `errno` a failed system call leaves behind. It is positive by the
POSIX contract, and the structure makes a zero error unrepresentable. -/
structure Errno where
  val : Int
  pos : 0 < val
  deriving DecidableEq

/-- `EIO`. -/
def EIO : Int := 5

/-- `EBUSY`. -/
def EBUSY : Int := 16

/-- `EINVAL`. -/
def EINVAL : Int := 22

/-- `ENOTSUP`. -/
def ENOTSUP : Int := 95

/-- `VHOST_MSG_HDR_SIZE`: request, flags and size, three 32-bit words. -/
def vhostMsgHdrSize : Nat := 12

/-- `VHOST_USER_MEM_REGIONS_MAX`. -/
def vhostUserMemRegionsMax : Nat := 8

/-- `VHOST_USER_MAX_FDS`. -/
def vhostUserMaxFds : Nat := 8

/-- `VHOST_USER_MSG_FLAGS_REPLY`: bit 2 of the header flags. -/
def vhostUserMsgFlagsReply : UInt32 := (1 : UInt32) <<< 2

/-- `VHOST_USER_MSG_FLAGS_REPLY_ACK`: bit 3 of the header flags. -/
def vhostUserMsgFlagsReplyAck : UInt32 := (1 : UInt32) <<< 3

/-- `VHOST_USER_F_PROTOCOL_FEATURES`, a master-feature bit. -/
def vhostUserFProtocolFeatures : UInt64 := 30

/-- `VHOST_USER_PROTOCOL_F_MQ`. -/
def vhostUserProtocolFMq : UInt64 := 0

/-- `VHOST_USER_PROTOCOL_F_LOG_SHMFD`. -/
def vhostUserProtocolFLogShmfd : UInt64 := 1

/-- `VHOST_USER_PROTOCOL_F_REPLY_ACK`. -/
def vhostUserProtocolFReplyAck : UInt64 := 3

/-- `VHOST_USER_PROTOCOL_F_CONFIG`. -/
def vhostUserProtocolFConfig : UInt64 := 9

/-- `VHOST_VRING_IDX_MASK`: the low byte of a vring fd payload is the index. -/
def vhostVringIdxMask : UInt64 := 0xff

/-- `VHOST_VRING_INVALID_FD`: bit 8 of a vring fd payload announces polling
mode, with no descriptor attached. -/
def vhostVringInvalidFd : UInt64 := (1 : UInt64) <<< 8

/-- `has_feature`: whether bit `featureBit` is set in a feature word. -/
def hasFeature (featuresQword featureBit : UInt64) : Bool :=
  featuresQword &&& (1 <<< featureBit) != 0

/-- `g_default_features`. -/
def gDefaultFeatures : UInt64 := 1 <<< vhostUserFProtocolFeatures

/-- `g_default_protocol_features`. -/
def gDefaultProtocolFeatures : UInt64 :=
  (1 <<< vhostUserProtocolFMq) ||| (1 <<< vhostUserProtocolFLogShmfd) |||
    (1 <<< vhostUserProtocolFReplyAck) ||| (1 <<< vhostUserProtocolFConfig)

/-- The C conversion of an `int` to `uint64_t`, modulo `2^64`. -/
def intToUInt64 (value : Int) : UInt64 :=
  UInt64.ofNat (value % 2 ^ 64).toNat

/-- The request codes `vhost_handle_request` switches on. Codes outside the
vhost-user table arrive as `other`. -/
inductive Request where
  | none
  | getFeatures
  | setFeatures
  | setOwner
  | resetOwner
  | setMemTable
  | setLogBase
  | setLogFd
  | setVringNum
  | setVringAddr
  | setVringBase
  | getVringBase
  | setVringKick
  | setVringCall
  | setVringErr
  | getProtocolFeatures
  | setProtocolFeatures
  | getQueueNum
  | setVringEnable
  | sendRarp
  | netSetMtu
  | setSlaveReqFd
  | iotlbMsg
  | setVringEndian
  | getConfig
  | setConfig
  | createCryptoSession
  | closeCryptoSession
  | postcopyAdvise
  | postcopyListen
  | postcopyEnd
  | getInflightFd
  | setInflightFd
  | other (code : UInt32)
  deriving DecidableEq, Repr, Inhabited

/-- `struct vhost_user_vring_state`. -/
structure VringState where
  index : UInt32
  num : UInt32
  deriving DecidableEq, Repr, Inhabited

/-- `struct vhost_user_vring_addr`: master addresses of the three rings. -/
structure VringAddr where
  index : UInt32
  flags : UInt32
  descAddr : UInt64
  usedAddr : UInt64
  availAddr : UInt64
  logAddr : UInt64
  deriving DecidableEq, Repr, Inhabited

/-- `struct vhost_user_mem_region`. -/
structure MemRegion where
  guestAddr : UInt64
  size : UInt64
  userAddr : UInt64
  mmapOffset : UInt64
  deriving DecidableEq, Repr, Inhabited

/-- `struct vhost_user_mem_desc`. The array has `VHOST_USER_MEM_REGIONS_MAX`
entries; a shorter list reads as zero past its end. -/
structure MemDesc where
  nregions : UInt32
  regions : List MemRegion
  deriving DecidableEq, Repr, Inhabited

/-- `struct vhost_user_config_space`. -/
structure ConfigSpace where
  offset : UInt32
  size : UInt32
  flags : UInt32
  payload : List UInt8
  deriving DecidableEq, Repr, Inhabited

/-- `sizeof(*config) - sizeof(config->payload)`: the three words before the
configuration bytes. -/
def configHeaderSize : UInt32 := 12

/-- `struct vhost_user_inflight_desc`. -/
structure InflightDesc where
  mmapSize : UInt64
  mmapOffset : UInt64
  numQueues : UInt16
  queueSize : UInt16
  deriving DecidableEq, Repr, Inhabited

/-- The payload union of `struct vhost_user_msg`, one field per member a
handler reads. Each handler reads exactly one member, so keeping the members
apart loses no behaviour of the source. -/
structure Payload where
  u64 : UInt64
  vringState : VringState
  vringAddr : VringAddr
  memDesc : MemDesc
  config : ConfigSpace
  inflightDesc : InflightDesc
  deriving DecidableEq, Repr, Inhabited

/-- `struct vhost_user_msg`: the 12-byte header and the payload. -/
structure Msg where
  req : Request
  flags : UInt32
  size : UInt32
  payload : Payload
  deriving DecidableEq, Repr, Inhabited

/-- The reply `vhost_send_reply` builds: the request echoed, a `u64` payload of
eight bytes and the `REPLY` flag. -/
def replyMsg (msgin : Msg) (u64 : UInt64) : Msg :=
  { req := msgin.req
    flags := vhostUserMsgFlagsReply
    size := 8
    payload := { (default : Payload) with u64 := u64 } }

end VhostServer
