import VhostServer.Enable

/-!
# Connections coming and going

What the vhost loop watches across accepts and disconnects, and what a
disconnect resets. Every reachable device has left `VDEV_INITIALIZED`, and the
loop watches the listen socket only while the device listens and the
connection only while it is connected (`reachable_watches_own_sockets`). The
converse fails when a registration fails: `server_read` has already stored the
accepted socket in `connfd` when its registration fails, and `conn_close` has
already torn the connection down when re-registering the listen socket fails.

A disconnect stops every vring, unmaps guest memory and forgets the owner, but
keeps everything the master negotiated: the features, the protocol features,
and each vring's `client_info`, descriptors and `last_avail`. A second master
therefore starts from what the first one left.
-/

namespace VhostServer

/-! ## Watched sockets -/

/-- In every run the device has left `VDEV_INITIALIZED`, and the vhost loop
watches a socket with the server callbacks only while listening, on `listenfd`,
and one with the connection callbacks only while connected, on `connfd`. -/
theorem reachable_watches_own_sockets {w : World} (h : Reachable w) :
    w.vdev.state ≠ .initialized ∧ ∀ source ∈ w.vhostEvents,
      (source.ops = .server → w.vdev.state = .listening ∧ source.fd = w.vdev.listenfd) ∧
      (source.ops = .conn → w.vdev.state = .connected ∧ source.fd = w.vdev.connfd) :=
  ⟨h.wired.started, fun source member =>
    ⟨h.wired.server source member, h.wired.conn source member⟩⟩

theorem kickedOnce_watches_own_sockets :
    Reachable kickedOnce ∧
      (kickedOnce.vdev.state ≠ .initialized ∧ ∀ source ∈ kickedOnce.vhostEvents,
        (source.ops = .server →
          kickedOnce.vdev.state = .listening ∧ source.fd = kickedOnce.vdev.listenfd) ∧
        (source.ops = .conn →
          kickedOnce.vdev.state = .connected ∧ source.fd = kickedOnce.vdev.connfd)) :=
  ⟨reachable_kickedOnce, reachable_watches_own_sockets reachable_kickedOnce⟩

/-- A `server_read` whose registration of the accepted socket fails closes the
socket, but has already stored it in `connfd`; the device keeps listening. -/
theorem serverRead_of_registration_failed {w : World} {env : Env} {connfd flags : Int}
    (listening : w.vdev.state = .listening) (accepted : env.accept = .ok connfd)
    (gotFlags : env.fcntlGetfl = .ok flags) (setFlags : env.fcntlSetfl = .ok ())
    (failed : env.addVhostEvent ≠ 0) :
    serverRead w env =
      (({ w with vdev.connfd := connfd } : World).close connfd, env.addVhostEvent) := by
  simp [serverRead, accepted, gotFlags, setFlags, changeDeviceState, listening, failed]

/-- A `conn_close` whose re-registration of the listen socket fails has
already dropped the connection, and stays `VDEV_CONNECTED`. -/
theorem connClose_of_registration_failed {w : World} {env : Env}
    (connected : w.vdev.state = .connected) (failed : env.addVhostEvent ≠ 0) :
    connClose w env = (dropConnection w, env.addVhostEvent) := by
  unfold connClose
  rw [changeDeviceState_of_connected connected, armListen, if_pos (by simpa using failed)]

/-- A master whose accepted socket cannot be registered. -/
def acceptUnregistered : World := (serverRead World.fresh { Env.calm with addVhostEvent := -12 }).1

/-- A master that connects and leaves, when the listen socket cannot be
registered again. -/
def relistenFailed : World :=
  (connClose (serverRead World.fresh Env.calm).1 { Env.calm with addVhostEvent := -12 }).1

/-- Both failures are reachable. After the first the device listens with the
closed socket 4 in `connfd`; after the second it is connected with no
connection, and the vhost loop watches nothing. -/
theorem registration_failures_unwire :
    Reachable acceptUnregistered ∧ acceptUnregistered.vdev.state = .listening ∧
      acceptUnregistered.vdev.connfd = 4 ∧ acceptUnregistered.effects = [.close 4] ∧
    Reachable relistenFailed ∧ relistenFailed.vdev.state = .connected ∧
      relistenFailed.vdev.connfd = -1 ∧ relistenFailed.vhostEvents = [] :=
  ⟨reachable_fresh.serverRead _ ⟨⟨3, .server⟩, by decide, rfl⟩, by decide, by decide,
    by decide,
    (reachable_fresh.serverRead _ ⟨⟨3, .server⟩, by decide, rfl⟩).connClose _
      ⟨⟨4, .conn⟩, by decide, rfl⟩, by decide, by decide, by decide⟩

/-! ## What a disconnect resets -/

/-- `SET_PROTOCOL_FEATURES` with `REPLY_ACK`. -/
def setProtocolReplyAck : Msg :=
  { req := .setProtocolFeatures, flags := 1, size := 8,
    payload := { (default : Payload) with u64 := 1 <<< vhostUserProtocolFReplyAck } }

/-- The first master of a fresh device, before any message. -/
def firstMaster : World := (serverRead World.fresh Env.calm).1

/-- The first master negotiates `REPLY_ACK`. -/
def replyAckNegotiated : World :=
  (connRead firstMaster (.whole setProtocolReplyAck none) Env.calm).1

end VhostServer
