import VhostServer.Handlers

/-!
# Connection state machine

`net_recv_msg`, `change_device_state`, the callbacks `server_read`,
`server_close`, `conn_read` and `conn_close` the vhost event loop runs for a
device's sockets, and `vhd_vdev_init_server` and `vhd_vdev_uninit`.

`sock_create_server` is represented by its result, the listen fd or `-1`: the
path handling and socket calls before it leave no state in the device.
-/

namespace VhostServer

/-- What one readable event on the connection delivers to `net_recv_msg`: the
result of the header `recvmsg`, the message its bytes and the payload `read`
decode to, the descriptors of an `SCM_RIGHTS` control message if one came,
and the result of the payload `read`. -/
structure Incoming where
  recvLen : Except Errno Nat
  msg : Msg
  scmRights : Option (List Int)
  readLen : Except Errno Nat

/-- `net_recv_msg` with `fdmax = VHOST_USER_MAX_FDS`: the byte count or
`-errno`, and the `fds` array as it leaves it. The control buffer is poisoned
with `0xff`, so the slots after the received descriptors read `-1`; with no
`SCM_RIGHTS` message the array keeps what it held. -/
def netRecvMsg (incoming : Incoming) (fds : List Int) : Int × List Int :=
  match incoming.recvLen with
  | .error errno => (-errno.val, fds)
  | .ok len =>
    if len != vhostMsgHdrSize then (- EIO, fds)
    else
      let fds :=
        match incoming.scmRights with
        | some received => (received ++ List.replicate vhostUserMaxFds (-1)).take vhostUserMaxFds
        | none => fds
      match incoming.readLen with
      | .error errno => (-errno.val, fds)
      | .ok payloadLen =>
        if payloadLen != incoming.msg.size.toNat then (- EIO, fds)
        else (len + payloadLen, fds)

/-- The `VDEV_CONNECTED` case of `change_device_state` before it falls through
to listening: drop the connection's event source, unmap guest memory, forget
the owner, uninit every vring, close the connection. -/
def dropConnection (w : World) : World :=
  let w := w.delVhostEvent w.vdev.connfd
  let w := vhdGuestMemoryUnmapAll w
  let w := { w with vdev.isOwned := false }
  let w := (List.range w.vdev.maxQueues.toNat).foldl vhdVringUninit w
  let w := w.close w.vdev.connfd
  { w with vdev.connfd := -1 }

/-- The `VDEV_INITIALIZED` case of `change_device_state`, and the end of the
`VDEV_CONNECTED` one: watch the listen socket, then enter `VDEV_LISTENING`. -/
def armListen (w : World) (env : Env) : World × Int :=
  if env.addVhostEvent != 0 then (w, env.addVhostEvent)
  else ({ w.addVhostEvent w.vdev.listenfd .server with vdev.state := .listening }, 0)

/-- `change_device_state`. A failed registration returns before the state is
written; every transition not listed is `-EINVAL` with nothing changed. -/
def changeDeviceState (w : World) (newState : VdevState) (env : Env) : World × Int :=
  match newState, w.vdev.state with
  | .listening, .connected => armListen (dropConnection w) env
  | .listening, .initialized => armListen w env
  | .connected, .listening =>
    if env.addVhostEvent != 0 then (w, env.addVhostEvent)
    else
      ({ (w.addVhostEvent w.vdev.connfd .conn).delVhostEvent w.vdev.listenfd with
          vdev.state := .connected }, 0)
  | _, _ => (w, -EINVAL)

/-- `server_read`: accept a master, make its socket non-blocking, and move to
`VDEV_CONNECTED`; on any failure the accepted socket is closed. -/
def serverRead (w : World) (env : Env) : World × Int :=
  match env.accept with
  | .error errno => (w, errno.val)
  | .ok connfd =>
    match env.fcntlGetfl, env.fcntlSetfl with
    | .error errno, _ => (w.close connfd, errno.val)
    | .ok _, .error errno => (w.close connfd, errno.val)
    | .ok _, .ok () =>
      let changed := changeDeviceState { w with vdev.connfd := connfd } .connected env
      if changed.2 != 0 then (changed.1.close connfd, changed.2) else (changed.1, 0)

/-- `server_close`: end of file on the listen socket is ignored. -/
def serverClose (w : World) : World × Int := (w, 0)

/-- `conn_read`: receive one message into the uninitialised `fds` array and
hand it to the protocol engine. -/
def connRead (w : World) (incoming : Incoming) (env : Env) : World × Int :=
  let received := netRecvMsg incoming env.uninitializedFds
  if received.1 < 0 then (w, received.1) else vhostHandleRequest w incoming.msg received.2 env

/-- `conn_close`: the master went away. -/
def connClose (w : World) (env : Env) : World × Int :=
  changeDeviceState w .listening env

/-- `vhd_vdev_uninit`: close the listen socket, uninit every vring, release
the inflight region and leave `g_vdevs`. The `vrings` array is then freed;
the model keeps its last contents. -/
def vhdVdevUninit (w : World) : World :=
  let w := w.close w.vdev.listenfd
  let w := (List.range w.vdev.maxQueues.toNat).foldl vhdVringUninit w
  let w := vhdVdevInflightCleanup w
  { w with listed := false }

/-- The device `memset` leaves behind. -/
def Vdev.zero : Vdev :=
  { listenfd := 0, connfd := 0, state := .initialized, isOwned := false,
    supportedProtocolFeatures := 0, negotiatedProtocolFeatures := 0, supportedFeatures := 0,
    negotiatedFeatures := 0, maxQueues := 0, numQueues := 0, vrings := [],
    guestMemmap := .zero, inflightfd := 0, inflightMem := 0, inflightSize := 0 }

/-- The device `vhd_vdev_init_server` builds around a listen socket, before it
starts listening. -/
def Vdev.init (listenfd : Int) (maxQueues : UInt32) : Vdev :=
  { Vdev.zero with
    listenfd := listenfd
    connfd := -1
    supportedProtocolFeatures := gDefaultProtocolFeatures
    maxQueues := maxQueues
    numQueues := maxQueues
    vrings := List.replicate maxQueues.toNat vhdVringInit
    inflightfd := -1 }

/-- `vhd_vdev_init_server` given the result of `sock_create_server`.
`maxQueues` holds the bits of the `int max_queues` argument, and `none` is the
abort of `VHD_VERIFY(max_queues > 0)` on a zero or negative one. -/
def vhdVdevInitServer (maxQueues : UInt32) (listenfd : Int) (env : Env) :
    Option (World × Int) :=
  if maxQueues = 0 ∨ 2 ^ 31 ≤ maxQueues.toNat then none
  else if listenfd < 0 then
    some ({ vdev := .zero, vhostEvents := [], rqEvents := [], listed := false, effects := [] }, -1)
  else
    let w : World :=
      { vdev := .init listenfd maxQueues, vhostEvents := [], rqEvents := [], listed := true,
        effects := [] }
    let armed := changeDeviceState w .listening env
    if armed.2 != 0 then some (vhdVdevUninit armed.1, armed.2) else some armed

end VhostServer
