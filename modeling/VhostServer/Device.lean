import VhostServer.Wire

/-!
# Device state and its environment

`struct vhd_vdev`, `struct vhd_vring` and the guest memory map of `vdev.h`,
together with what a device shares with the rest of the process: the event
sources of the vhost event loop, those of its request queue, and the calls it
makes into the operating system.

All handlers run on the vhost event loop, one callback to completion, so a step
of the model is one callback. What a step asks of the operating system (`mmap`,
`accept`, `sendmsg`, event registration) and of its collaborators (the device
type's table, the virtqueue primitive) is answered by an `Env`, one record per
step with one field per call site. A run quantifies over every sequence of such
records, which covers every success and failure of every call.
-/

namespace VhostServer

/-- A host address returned by a successful `mmap`. With a `NULL` hint the
kernel never maps page zero, which `is_region_mapped` relies on. -/
structure MapAddr where
  addr : UInt64
  ne_zero : addr ≠ 0
  deriving DecidableEq

/-- The answers one step receives from the operating system and from the
device's collaborators. -/
structure Env where
  /-- `type->get_features`. -/
  getFeatures : UInt64
  /-- `type->get_config`: the size reported for a buffer of the given size. -/
  getConfig : UInt32 → UInt64
  /-- `mmap` of the guest region at index `i` of a `SET_MEM_TABLE`. -/
  mmapRegion : Nat → Except Errno MapAddr
  /-- `memfd_create` of `GET_INFLIGHT_FD`. -/
  memfdCreate : Except Errno Int
  /-- `ftruncate` of the inflight memfd. -/
  ftruncate : Except Errno Unit
  /-- `mmap` of an inflight region. -/
  mmapInflight : Except Errno MapAddr
  /-- `virtio_virtq_attach`: zero on success. -/
  virtqAttach : Int
  /-- `vhd_attach_event`: zero on success. -/
  attachEvent : Int
  /-- `sendmsg` of a handler's explicit reply: the bytes sent. -/
  sendReply : Except Errno Nat
  /-- `sendmsg` of the acknowledgement: the bytes sent. -/
  sendAck : Except Errno Nat
  /-- `accept` on the listen socket. -/
  accept : Except Errno Int
  /-- `fcntl(F_GETFL)` on the accepted socket. -/
  fcntlGetfl : Except Errno Int
  /-- `fcntl(F_SETFL)` on the accepted socket. -/
  fcntlSetfl : Except Errno Unit
  /-- `vhd_add_vhost_event`: zero on success. -/
  addVhostEvent : Int
  /-- The stack contents of `conn_read`'s uninitialised `fds` array. -/
  uninitializedFds : List Int
  /-- How far `dispatch_requests` advances the virtqueue's `last_avail`. -/
  dispatchAdvance : UInt16
  /-- What `dispatch_requests` returns. -/
  dispatchResult : Int

/-- The header of `struct inflight_split_region`, the per-queue part of the
inflight area. -/
structure InflightSplitRegion where
  features : UInt64
  version : UInt16
  descNum : UInt16
  lastBatchHead : UInt16
  usedIdx : UInt16
  deriving DecidableEq, Repr

/-- A call whose effect outlives the step: closing or mapping a descriptor,
unmapping memory, sending on a socket, draining an eventfd, and the writes into
a shared mapping. -/
inductive Effect where
  | close (fd : Int)
  | mmap (fd : Int) (length offset : UInt64)
  | munmap (addr length : UInt64)
  | send (sock : Int) (msg : Msg) (fds : List Int)
  | clearEventfd (fd : Int)
  | memset (addr length : UInt64)
  | writeInflightHeader (addr : UInt64) (header : InflightSplitRegion)
  deriving DecidableEq, Repr

/-- `struct vhd_guest_memory_region`; `hva = 0` is the `NULL` of an unused
slot. -/
structure GuestMemoryRegion where
  gpa : UInt64
  uva : UInt64
  hva : UInt64
  pages : UInt32
  fd : Int
  deriving DecidableEq, Repr, Inhabited

/-- `struct vhd_guest_memory_map`: a fixed array of slots. -/
structure GuestMemoryMap where
  regions : List GuestMemoryRegion
  length_regions : regions.length = vhostUserMemRegionsMax
  deriving DecidableEq

/-- The zeroed map of a `memset` device. -/
def GuestMemoryMap.zero : GuestMemoryMap :=
  ⟨List.replicate vhostUserMemRegionsMax default, List.length_replicate _ _⟩

/-- `struct vring_client_info`, collected over several messages before a vring
can start. `num` and `base` keep the 32 bits of the `int` fields. The
`inflight_addr` field is left out: nothing in `vdev.c` reads or writes it. -/
structure VringClientInfo where
  descAddr : UInt64
  availAddr : UInt64
  usedAddr : UInt64
  num : UInt32
  base : UInt32
  deriving DecidableEq, Repr, Inhabited

/-- Modelled from the spec: the virtqueue primitive of `virtio/virt_queue.c`
is not among the sources. What `vdev.c` observes of a `struct virtio_virtq` is
the ring it is attached to (`none` once released), its notify fd, and
`last_avail`, the next available-ring index it will consume. -/
structure Virtq where
  attached : Option VringClientInfo
  notifyFd : Int
  lastAvail : UInt16
  deriving DecidableEq, Repr, Inhabited

namespace Virtq

/-- A successful `virtio_virtq_attach`: the rings of `info`, consumption
resuming at its base. -/
def attach (vq : Virtq) (info : VringClientInfo) : Virtq :=
  { vq with attached := some info, lastAvail := info.base.toUInt16 }

/-- `virtq_set_notify_fd`. -/
def setNotifyFd (vq : Virtq) (fd : Int) : Virtq := { vq with notifyFd := fd }

/-- `virtio_virtq_release`. -/
def release (vq : Virtq) : Virtq := { vq with attached := none }

@[simp] theorem attach_attached (vq : Virtq) (info : VringClientInfo) :
    (vq.attach info).attached = some info := rfl

@[simp] theorem attach_notifyFd (vq : Virtq) (info : VringClientInfo) :
    (vq.attach info).notifyFd = vq.notifyFd := rfl

@[simp] theorem setNotifyFd_attached (vq : Virtq) (fd : Int) :
    (vq.setNotifyFd fd).attached = vq.attached := rfl

@[simp] theorem setNotifyFd_notifyFd (vq : Virtq) (fd : Int) :
    (vq.setNotifyFd fd).notifyFd = fd := rfl

@[simp] theorem setNotifyFd_lastAvail (vq : Virtq) (fd : Int) :
    (vq.setNotifyFd fd).lastAvail = vq.lastAvail := rfl

@[simp] theorem release_attached (vq : Virtq) : vq.release.attached = none := rfl

@[simp] theorem release_notifyFd (vq : Virtq) : vq.release.notifyFd = vq.notifyFd := rfl

@[simp] theorem release_lastAvail (vq : Virtq) : vq.release.lastAvail = vq.lastAvail := rfl

end Virtq

/-- `struct vhd_vring`. The owning device and `id` are implicit: a vring is
named by its index in `vdev->vrings`, which is the `id` `vhd_vring_init`
gives it. `kickev` is the entry of the request queue's event sources. -/
structure Vring where
  clientInfo : VringClientInfo
  kickfd : Int
  callfd : Int
  errfd : Int
  isEnabled : Bool
  vq : Virtq
  deriving DecidableEq, Repr, Inhabited

/-- `enum vhd_vdev_state`. -/
inductive VdevState where
  | initialized
  | listening
  | connected
  deriving DecidableEq, Repr, Inhabited

/-- The two callback tables of the vhost event loop. -/
inductive SockOps where
  /-- `g_server_sock_ops`. -/
  | server
  /-- `g_conn_sock_ops`. -/
  | conn
  deriving DecidableEq, Repr

/-- An event source of the vhost event loop: a socket and its callbacks. -/
structure VhostEvent where
  fd : Int
  ops : SockOps
  deriving DecidableEq, Repr

/-- An event source of the request queue: a kick fd and the vring whose
`vring_io_event` it runs. -/
structure RqEvent where
  fd : Int
  vring : Nat
  deriving DecidableEq, Repr

/-- `struct vhd_vdev`. The device type's table is answered by `Env`, the
request queue and `sock_ev` live in `World`; `priv` is never read. -/
structure Vdev where
  listenfd : Int
  connfd : Int
  state : VdevState
  isOwned : Bool
  supportedProtocolFeatures : UInt64
  negotiatedProtocolFeatures : UInt64
  supportedFeatures : UInt64
  negotiatedFeatures : UInt64
  maxQueues : UInt32
  numQueues : UInt32
  vrings : List Vring
  guestMemmap : GuestMemoryMap
  inflightfd : Int
  inflightMem : UInt64
  inflightSize : UInt64

/-- A device together with what it shares with the process: the vhost event
loop's sources, its request queue's sources, membership of `g_vdevs`, and the
calls it has made. -/
structure World where
  vdev : Vdev
  vhostEvents : List VhostEvent
  rqEvents : List RqEvent
  listed : Bool
  effects : List Effect

namespace World

/-- Record one call. -/
def emit (w : World) (effect : Effect) : World :=
  { w with effects := w.effects ++ [effect] }

/-- `close(fd)`. -/
def close (w : World) (fd : Int) : World := w.emit (.close fd)

/-- Replace the vring at `index`. -/
def setVring (w : World) (index : Nat) (vring : Vring) : World :=
  { w with vdev.vrings := w.vdev.vrings.set index vring }

/-- `vhd_add_vhost_event` when it succeeds. -/
def addVhostEvent (w : World) (fd : Int) (ops : SockOps) : World :=
  { w with vhostEvents := w.vhostEvents ++ [⟨fd, ops⟩] }

/-- `vhd_del_vhost_event(fd)`. -/
def delVhostEvent (w : World) (fd : Int) : World :=
  { w with vhostEvents := w.vhostEvents.filter (·.fd != fd) }

/-- `vhd_attach_event(rq, fd, &vring->kickev)` when it succeeds. -/
def attachEvent (w : World) (fd : Int) (index : Nat) : World :=
  { w with rqEvents := w.rqEvents ++ [⟨fd, index⟩] }

/-- `vhd_detach_event(rq, fd)`. -/
def detachEvent (w : World) (fd : Int) : World :=
  { w with rqEvents := w.rqEvents.filter (·.fd != fd) }

@[simp] theorem emit_vdev (w : World) (effect : Effect) : (w.emit effect).vdev = w.vdev := rfl

@[simp] theorem emit_vhostEvents (w : World) (effect : Effect) :
    (w.emit effect).vhostEvents = w.vhostEvents := rfl

@[simp] theorem emit_rqEvents (w : World) (effect : Effect) :
    (w.emit effect).rqEvents = w.rqEvents := rfl

@[simp] theorem emit_effects (w : World) (effect : Effect) :
    (w.emit effect).effects = w.effects ++ [effect] := rfl

@[simp] theorem close_eq (w : World) (fd : Int) : w.close fd = w.emit (.close fd) := rfl

@[simp] theorem setVring_vdev (w : World) (index : Nat) (vring : Vring) :
    (w.setVring index vring).vdev = { w.vdev with vrings := w.vdev.vrings.set index vring } :=
  rfl

@[simp] theorem setVring_vhostEvents (w : World) (index : Nat) (vring : Vring) :
    (w.setVring index vring).vhostEvents = w.vhostEvents := rfl

@[simp] theorem setVring_rqEvents (w : World) (index : Nat) (vring : Vring) :
    (w.setVring index vring).rqEvents = w.rqEvents := rfl

@[simp] theorem setVring_effects (w : World) (index : Nat) (vring : Vring) :
    (w.setVring index vring).effects = w.effects := rfl

@[simp] theorem addVhostEvent_vdev (w : World) (fd : Int) (ops : SockOps) :
    (w.addVhostEvent fd ops).vdev = w.vdev := rfl

@[simp] theorem addVhostEvent_vhostEvents (w : World) (fd : Int) (ops : SockOps) :
    (w.addVhostEvent fd ops).vhostEvents = w.vhostEvents ++ [⟨fd, ops⟩] := rfl

@[simp] theorem addVhostEvent_rqEvents (w : World) (fd : Int) (ops : SockOps) :
    (w.addVhostEvent fd ops).rqEvents = w.rqEvents := rfl

@[simp] theorem addVhostEvent_effects (w : World) (fd : Int) (ops : SockOps) :
    (w.addVhostEvent fd ops).effects = w.effects := rfl

@[simp] theorem delVhostEvent_vdev (w : World) (fd : Int) :
    (w.delVhostEvent fd).vdev = w.vdev := rfl

@[simp] theorem delVhostEvent_vhostEvents (w : World) (fd : Int) :
    (w.delVhostEvent fd).vhostEvents = w.vhostEvents.filter (·.fd != fd) := rfl

@[simp] theorem delVhostEvent_rqEvents (w : World) (fd : Int) :
    (w.delVhostEvent fd).rqEvents = w.rqEvents := rfl

@[simp] theorem delVhostEvent_effects (w : World) (fd : Int) :
    (w.delVhostEvent fd).effects = w.effects := rfl

@[simp] theorem attachEvent_vdev (w : World) (fd : Int) (index : Nat) :
    (w.attachEvent fd index).vdev = w.vdev := rfl

@[simp] theorem attachEvent_vhostEvents (w : World) (fd : Int) (index : Nat) :
    (w.attachEvent fd index).vhostEvents = w.vhostEvents := rfl

@[simp] theorem attachEvent_rqEvents (w : World) (fd : Int) (index : Nat) :
    (w.attachEvent fd index).rqEvents = w.rqEvents ++ [⟨fd, index⟩] := rfl

@[simp] theorem attachEvent_effects (w : World) (fd : Int) (index : Nat) :
    (w.attachEvent fd index).effects = w.effects := rfl

@[simp] theorem detachEvent_vdev (w : World) (fd : Int) :
    (w.detachEvent fd).vdev = w.vdev := rfl

@[simp] theorem detachEvent_vhostEvents (w : World) (fd : Int) :
    (w.detachEvent fd).vhostEvents = w.vhostEvents := rfl

@[simp] theorem detachEvent_rqEvents (w : World) (fd : Int) :
    (w.detachEvent fd).rqEvents = w.rqEvents.filter (·.fd != fd) := rfl

@[simp] theorem detachEvent_effects (w : World) (fd : Int) :
    (w.detachEvent fd).effects = w.effects := rfl

end World

end VhostServer
