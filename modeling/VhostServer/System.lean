import VhostServer.Connection
import VhostServer.Frame

/-!
# Runs of a device

A device lives from a successful `vhd_vdev_init_server` on through the
callbacks its two loops deliver. The vhost event loop calls `read` or `close`
of a socket it watches, with the callbacks registered for that socket; the
request queue calls `vring_io_event` for a registered kick fd. `Reachable`
closes the initial worlds under every such delivery, with every answer of the
environment at every step.

The run invariants of this module: every vring stays attached to exactly what
it is enabled with (`Reachable.allAttached`), and the sockets the vhost loop
watches, the device state and the enabled vrings agree (`Reachable.wired`).
-/

namespace VhostServer

/-- A callback one of the two loops can deliver to the device. -/
inductive Event where
  | serverRead
  | serverClose
  | connRead (incoming : Incoming)
  | connClose
  | vringIo (index : Nat)

/-- The loops deliver a socket callback only for a socket they watch with
those callbacks, and a kick only for a registered kick fd. -/
def Event.Deliverable (w : World) : Event → Prop
  | .serverRead | .serverClose => ∃ source ∈ w.vhostEvents, source.ops = .server
  | .connRead _ | .connClose => ∃ source ∈ w.vhostEvents, source.ops = .conn
  | .vringIo index => ∃ source ∈ w.rqEvents, source.vring = index

/-- Run the callback of `event`. -/
def deliver (w : World) (env : Env) : Event → World × Int
  | .serverRead => serverRead w env
  | .serverClose => serverClose w
  | .connRead incoming => connRead w incoming env
  | .connClose => connClose w env
  | .vringIo index => vringIoEvent w env index

/-- The worlds a device can be in: those a successful `vhd_vdev_init_server`
leaves, closed under every deliverable callback and every answer of the
environment. -/
inductive Reachable : World → Prop
  | init {maxQueues : UInt32} {listenfd : Int} {env : Env} {w : World} :
      vhdVdevInitServer maxQueues listenfd env = some (w, 0) → Reachable w
  | step {w : World} {event : Event} {env : Env} :
      Reachable w → event.Deliverable w → Reachable (deliver w env event).1

namespace Reachable

variable {w : World}

theorem serverRead (h : Reachable w) (env : Env)
    (watched : ∃ source ∈ w.vhostEvents, source.ops = .server) :
    Reachable (VhostServer.serverRead w env).1 :=
  @Reachable.step w .serverRead env h watched

theorem connRead (h : Reachable w) (env : Env) (incoming : Incoming)
    (watched : ∃ source ∈ w.vhostEvents, source.ops = .conn) :
    Reachable (VhostServer.connRead w incoming env).1 :=
  @Reachable.step w (.connRead incoming) env h watched

theorem connClose (h : Reachable w) (env : Env)
    (watched : ∃ source ∈ w.vhostEvents, source.ops = .conn) :
    Reachable (VhostServer.connClose w env).1 :=
  @Reachable.step w .connClose env h watched

theorem vringIo (h : Reachable w) (env : Env) (index : Nat)
    (kicked : ∃ source ∈ w.rqEvents, source.vring = index) :
    Reachable (vringIoEvent w env index).1 :=
  @Reachable.step w (.vringIo index) env h kicked

end Reachable

/-! ## Uninitialising vrings -/

/-- No enabled vring sits at `index`. -/
def DisabledAt (w : World) (index : Nat) : Prop :=
  ∀ vring, w.vdev.vrings[index]? = some vring → vring.isEnabled = false

theorem vringDisable_vrings (w : World) (index : Nat) (vring : Vring) :
    (vringDisable w index vring).vdev.vrings = w.vdev.vrings.set index vring.stop := rfl

theorem vhdVringUninit_disabledAt (w : World) (index : Nat) :
    DisabledAt (vhdVringUninit w index) index := by
  intro vring found
  unfold vhdVringUninit at found
  split at found
  · rename_i old hold
    split at found
    · rw [vringDisable_vrings, List.getElem?_set_self (List.getElem?_eq_some_iff.1 hold).1]
        at found
      cases found
      rfl
    · rename_i idle
      rw [hold] at found
      cases found
      simpa using idle
  · rename_i none
    rw [none] at found
    cases found

theorem DisabledAt.uninit {w : World} {index : Nat} (h : DisabledAt w index)
    (other : Nat) : DisabledAt (vhdVringUninit w other) index := by
  intro vring found
  unfold vhdVringUninit at found
  split at found
  · split at found
    · rw [vringDisable_vrings, List.getElem?_set] at found
      split_ifs at found
      · cases found
        rfl
      · exact h vring found
    · exact h vring found
  · exact h vring found

theorem vhdVringUninit_frame (w : World) (index : Nat) :
    HandlerFrame w (vhdVringUninit w index) := by
  unfold vhdVringUninit
  split
  · split
    · exact (HandlerFrame.detachEvent w _).trans (HandlerFrame.setVring _ _ _)
    · exact HandlerFrame.refl w
  · exact HandlerFrame.refl w

theorem DisabledAt.uninitAll {w : World} {index : Nat} (h : DisabledAt w index)
    (indices : List Nat) : DisabledAt (indices.foldl vhdVringUninit w) index := by
  induction indices generalizing w with
  | nil => exact h
  | cons first rest ih => exact ih (h.uninit first)

/-- Uninitialising the vrings at `indices`, as the loops of
`change_device_state` and `vhd_vdev_uninit` do, leaves each of them disabled. -/
theorem foldl_vhdVringUninit_disabledAt (indices : List Nat) (w : World) :
    ∀ index ∈ indices, DisabledAt (indices.foldl vhdVringUninit w) index := by
  induction indices generalizing w with
  | nil => intro index member; cases member
  | cons first rest ih =>
    intro index member
    rcases List.mem_cons.1 member with rfl | later
    · exact (vhdVringUninit_disabledAt w index).uninitAll rest
    · exact ih _ index later

theorem foldl_vhdVringUninit_frame (indices : List Nat) (w : World) :
    HandlerFrame w (indices.foldl vhdVringUninit w) := by
  induction indices generalizing w with
  | nil => exact HandlerFrame.refl w
  | cons first rest ih => exact (vhdVringUninit_frame w first).trans (ih _)

theorem vhdVringUninit_vdev (w : World) (index : Nat) :
    (vhdVringUninit w index).vdev =
      { w.vdev with vrings := (vhdVringUninit w index).vdev.vrings } := by
  unfold vhdVringUninit
  split
  · split <;> rfl
  · rfl

theorem AllAttached.uninitAll {w : World} (h : AllAttached w) (indices : List Nat) :
    AllAttached (indices.foldl vhdVringUninit w) := by
  induction indices generalizing w with
  | nil => exact h
  | cons first rest ih => exact ih (vhdVringUninit_attached h first)

theorem foldl_vhdVringUninit_vdev (indices : List Nat) (w : World) :
    (indices.foldl vhdVringUninit w).vdev =
      { w.vdev with vrings := (indices.foldl vhdVringUninit w).vdev.vrings } := by
  induction indices generalizing w with
  | nil => rfl
  | cons first rest ih => rw [List.foldl_cons, ih, vhdVringUninit_vdev]

/-- What `change_device_state` leaves of the connection when it drops one:
`connfd` is `-1` and the vhost loop no longer watches the old `connfd`. -/
theorem dropConnection_connection (w : World) :
    (dropConnection w).connection =
      { w.connection with
        connfd := -1, vhostEvents := w.vhostEvents.filter (·.fd != w.vdev.connfd) } := by
  have memory := (KeepsVrings.of_onlyMemory
    (vhdGuestMemoryUnmapAll_onlyMemory (w.delVhostEvent w.vdev.connfd))).connection
  unfold dropConnection
  dsimp only
  generalize vhdGuestMemoryUnmapAll (w.delVhostEvent w.vdev.connfd) = unmapped at memory ⊢
  have uninit := (foldl_vhdVringUninit_frame (List.range unmapped.vdev.maxQueues.toNat)
    { unmapped with vdev.isOwned := false }).connection
  generalize List.foldl vhdVringUninit _ _ = disabled at uninit ⊢
  simp only [World.connection, Connection.mk.injEq] at memory uninit ⊢
  simp only [World.close_eq, World.emit_vdev, World.emit_vhostEvents, uninit, memory,
    World.delVhostEvent_vdev, World.delVhostEvent_vhostEvents, and_self]

theorem dropConnection_attached {w : World} (h : AllAttached w) :
    AllAttached (dropConnection w) := by
  have unmapped := (h.of_vrings rfl).of_vrings
    (vhdGuestMemoryUnmapAll_onlyMemory (w.delVhostEvent w.vdev.connfd)).vrings
  unfold dropConnection
  dsimp only
  generalize vhdGuestMemoryUnmapAll (w.delVhostEvent w.vdev.connfd) = memory at unmapped ⊢
  have owned : AllAttached { memory with vdev.isOwned := false } := unmapped
  have disabled := owned.uninitAll (List.range memory.vdev.maxQueues.toNat)
  generalize List.foldl vhdVringUninit _ _ = uninit at disabled ⊢
  exact disabled

/-- Dropping a connection disables every vring below `max_queues`. -/
theorem dropConnection_disabledAt (w : World) {index : Nat}
    (below : index < w.vdev.maxQueues.toNat) : DisabledAt (dropConnection w) index := by
  have memory := (KeepsVrings.of_onlyMemory
    (vhdGuestMemoryUnmapAll_onlyMemory (w.delVhostEvent w.vdev.connfd))).connection
  unfold dropConnection
  dsimp only
  generalize vhdGuestMemoryUnmapAll (w.delVhostEvent w.vdev.connfd) = unmapped at memory ⊢
  have maxQueues : unmapped.vdev.maxQueues = w.vdev.maxQueues :=
    congrArg Connection.maxQueues memory
  have disabled := foldl_vhdVringUninit_disabledAt (List.range unmapped.vdev.maxQueues.toNat)
    { unmapped with vdev.isOwned := false } index (List.mem_range.2 (maxQueues ▸ below))
  generalize List.foldl vhdVringUninit _ _ = uninit at disabled ⊢
  exact disabled

/-- A world whose vrings are disabled at every index has no enabled vring. -/
theorem not_enabled_of_disabledAt {w : World}
    (h : ∀ index < w.vdev.vrings.length, DisabledAt w index) :
    ∀ vring ∈ w.vdev.vrings, vring.isEnabled = false := by
  intro vring member
  obtain ⟨index, found⟩ := List.mem_iff_getElem?.1 member
  exact h index (List.getElem?_eq_some_iff.1 found).1 vring found

/-! ## Changing the device state -/

theorem changeDeviceState_of_connected {w : World} (connected : w.vdev.state = .connected)
    (env : Env) : changeDeviceState w .listening env = armListen (dropConnection w) env := by
  simp only [changeDeviceState, connected]

theorem changeDeviceState_of_initialized {w : World} (initialized : w.vdev.state = .initialized)
    (env : Env) : changeDeviceState w .listening env = armListen w env := by
  simp only [changeDeviceState, initialized]

/-- `armListen` either fails with nothing changed, or watches the listen
socket and enters `VDEV_LISTENING`. -/
theorem armListen_cases (w : World) (env : Env) :
    armListen w env = (w, env.addVhostEvent) ∧ env.addVhostEvent ≠ 0 ∨
      armListen w env =
          ({ w.addVhostEvent w.vdev.listenfd .server with vdev.state := .listening }, 0) ∧
        env.addVhostEvent = 0 := by
  unfold armListen
  split_ifs with failed
  · exact .inl ⟨rfl, by simpa using failed⟩
  · exact .inr ⟨rfl, by simpa using failed⟩

theorem armListen_vrings (w : World) (env : Env) :
    (armListen w env).1.vdev.vrings = w.vdev.vrings := by
  rcases armListen_cases w env with ⟨armed, -⟩ | ⟨armed, -⟩ <;> rw [armed]
  rfl

theorem changeDeviceState_attached {w : World} (h : AllAttached w) (newState : VdevState)
    (env : Env) : AllAttached (changeDeviceState w newState env).1 := by
  unfold changeDeviceState
  split
  · exact (dropConnection_attached h).of_vrings (armListen_vrings _ env)
  · exact h.of_vrings (armListen_vrings w env)
  · split_ifs
    · exact h
    · exact h.of_vrings rfl
  · exact h

/-- `change_device_state(VDEV_CONNECTED)`: from `VDEV_LISTENING` it watches
`connfd` in place of the listen socket, or fails; every failure, and every
other state, leaves the world as it was. -/
theorem changeDeviceState_connected_cases (w : World) (env : Env) :
    (changeDeviceState w .connected env).1 = w ∧ (changeDeviceState w .connected env).2 ≠ 0 ∨
      w.vdev.state = .listening ∧ changeDeviceState w .connected env =
        ({ (w.addVhostEvent w.vdev.connfd .conn).delVhostEvent w.vdev.listenfd with
            vdev.state := .connected }, 0) := by
  unfold changeDeviceState
  rcases state : w.vdev.state with _ | _ | _
  · exact .inl ⟨rfl, show -EINVAL ≠ 0 by decide⟩
  · dsimp only
    split_ifs with failed
    · exact .inl ⟨rfl, by simpa using failed⟩
    · exact .inr ⟨rfl, rfl⟩
  · exact .inl ⟨rfl, show -EINVAL ≠ 0 by decide⟩

/-- What `server_read` can do to the connection: keep it but for `connfd`
(every failure), or, from `VDEV_LISTENING`, watch the accepted socket in place
of the listen socket and enter `VDEV_CONNECTED`. It never touches a vring. -/
theorem serverRead_cases (w : World) (env : Env) :
    (serverRead w env).1.vdev.vrings = w.vdev.vrings ∧
      ((∃ connfd, (serverRead w env).1.connection = { w.connection with connfd }) ∨
        ∃ connfd, w.vdev.state = .listening ∧ (serverRead w env).1.connection =
          { w.connection with
            connfd, state := .connected,
            vhostEvents := (w.vhostEvents ++ [VhostEvent.mk connfd .conn]).filter
              (·.fd != w.vdev.listenfd) }) := by
  unfold serverRead
  split
  · exact ⟨rfl, .inl ⟨w.vdev.connfd, rfl⟩⟩
  · rename_i connfd accepted
    split
    · exact ⟨rfl, .inl ⟨w.vdev.connfd, rfl⟩⟩
    · exact ⟨rfl, .inl ⟨w.vdev.connfd, rfl⟩⟩
    · dsimp only
      rcases changeDeviceState_connected_cases { w with vdev.connfd := connfd } env with
        ⟨unchanged, failed⟩ | ⟨listening, changed⟩
      · rw [if_pos (by simpa using failed), unchanged]
        exact ⟨rfl, .inl ⟨connfd, rfl⟩⟩
      · rw [changed]
        exact ⟨rfl, .inr ⟨connfd, listening, rfl⟩⟩

/-- A successful `vhd_vdev_init_server` leaves the device listening on its
listen socket, with every vring as `vhd_vring_init` made it. -/
theorem vhdVdevInitServer_eq {maxQueues : UInt32} {listenfd : Int} {env : Env} {w : World}
    (h : vhdVdevInitServer maxQueues listenfd env = some (w, 0)) :
    w = { vdev := { Vdev.init listenfd maxQueues with state := .listening },
          vhostEvents := [⟨listenfd, .server⟩], rqEvents := [], listed := true,
          effects := [] } := by
  unfold vhdVdevInitServer at h
  split_ifs at h with invalid negative
  · exact absurd (congrArg Prod.snd (Option.some.inj h)) (show (-1 : Int) ≠ 0 by decide)
  · dsimp only at h
    rw [changeDeviceState_of_initialized rfl] at h
    rcases armListen_cases _ env with ⟨armed, failed⟩ | ⟨armed, -⟩
    · rw [armed, if_pos (by simpa using failed)] at h
      exact absurd (congrArg Prod.snd (Option.some.inj h)) failed
    · rw [armed] at h
      exact (congrArg Prod.fst (Option.some.inj h)).symm

theorem dropConnection_length (w : World) :
    (dropConnection w).vdev.vrings.length = w.vdev.vrings.length := by
  have memory := (vhdGuestMemoryUnmapAll_onlyMemory (w.delVhostEvent w.vdev.connfd)).vrings
  unfold dropConnection
  dsimp only
  generalize vhdGuestMemoryUnmapAll (w.delVhostEvent w.vdev.connfd) = unmapped at memory ⊢
  have uninit := (foldl_vhdVringUninit_frame (List.range unmapped.vdev.maxQueues.toNat)
    { unmapped with vdev.isOwned := false }).length_vrings
  generalize List.foldl vhdVringUninit _ _ = disabled at uninit ⊢
  exact uninit.trans (congrArg List.length memory)

/-! ## The kick callback -/

/-- `vring_io_event` either leaves the world as it was, or, on an enabled
vring, clears its kick fd and advances its `last_avail`. -/
theorem vringIoEvent_cases (w : World) (env : Env) (index : Nat) :
    (vringIoEvent w env index).1 = w ∨
      ∃ vring, w.vdev.vrings[index]? = some vring ∧ vring.isEnabled = true ∧
        (vringIoEvent w env index).1 = (w.emit (.clearEventfd vring.kickfd)).setVring index
          { vring with
            vq := { vring.vq with lastAvail := vring.vq.lastAvail + env.dispatchAdvance } } := by
  unfold vringIoEvent
  split
  · exact .inl rfl
  · rename_i vring found
    split_ifs with disabled
    · exact .inl rfl
    · exact .inr ⟨vring, found, by simpa using disabled, rfl⟩

theorem vringIoEvent_attached {w : World} (h : AllAttached w) (env : Env) (index : Nat) :
    AllAttached (vringIoEvent w env index).1 := by
  rcases vringIoEvent_cases w env index with unchanged | ⟨vring, found, -, advanced⟩
  · rw [unchanged]
    exact h
  · rw [advanced]
    exact (h.of_vrings rfl).setVring (h vring (List.getElem?_mem found))

/-! ## Wiring of the sockets -/

/-- The wiring invariant of a device: it has left `VDEV_INITIALIZED` for good;
the vhost loop watches the listen socket only while the device listens and the
connection only while it is connected, each through the device's own fd; only
a connected device has an enabled vring; and there is one vring per queue. -/
structure Connection.Wired (c : Connection) (vrings : List Vring) : Prop where
  started : c.state ≠ .initialized
  server : ∀ source ∈ c.vhostEvents, source.ops = .server →
    c.state = .listening ∧ source.fd = c.listenfd
  conn : ∀ source ∈ c.vhostEvents, source.ops = .conn →
    c.state = .connected ∧ source.fd = c.connfd
  enabled : ∀ vring ∈ vrings, vring.isEnabled = true → c.state = .connected
  length_vrings : vrings.length = c.maxQueues.toNat

/-- The wiring invariant of a world's device. -/
def World.Wired (w : World) : Prop := w.connection.Wired w.vdev.vrings

theorem vhdVdevInitServer_wired {maxQueues : UInt32} {listenfd : Int} {env : Env} {w : World}
    (h : vhdVdevInitServer maxQueues listenfd env = some (w, 0)) : w.Wired := by
  rw [vhdVdevInitServer_eq h]
  refine ⟨?_, ?_, ?_, ?_, ?_⟩ <;>
    simp [World.connection, Vdev.init, vhdVringInit, List.mem_replicate]

/-- A connected device keeps its wiring through a step that keeps the
connection and the number of vrings: every message handler. -/
theorem World.Wired.of_frame {w w' : World} (h : w.Wired) (connected : w.vdev.state = .connected)
    (frame : HandlerFrame w w') : w'.Wired := by
  unfold World.Wired
  rw [frame.connection]
  exact ⟨h.started, h.server, h.conn, fun _ _ _ => connected,
    frame.length_vrings.trans h.length_vrings⟩

theorem serverRead_wired {w : World} (h : w.Wired)
    (watched : ∃ source ∈ w.vhostEvents, source.ops = .server) (env : Env) :
    (serverRead w env).1.Wired := by
  obtain ⟨source, member, server⟩ := watched
  have listening : w.vdev.state = .listening := (h.server source member server).1
  have noConn : ∀ source ∈ w.vhostEvents, source.ops ≠ .conn := fun source member conn => by
    have connected : w.vdev.state = .connected := (h.conn source member conn).1
    rw [listening] at connected
    cases connected
  unfold World.Wired
  obtain ⟨vrings, ⟨connfd, kept⟩ | ⟨connfd, -, accepted⟩⟩ := serverRead_cases w env <;>
    rw [vrings] <;> [rw [kept]; rw [accepted]]
  · exact ⟨h.started, h.server, fun source member conn => absurd conn (noConn source member),
      h.enabled, h.length_vrings⟩
  · refine ⟨nofun, ?_, ?_, fun _ _ _ => rfl, h.length_vrings⟩
    all_goals
      intro source member
      simp only [List.mem_filter, List.mem_append, List.mem_singleton] at member
      obtain ⟨old | rfl, other⟩ := member
    · intro server
      have listenfd : source.fd = w.vdev.listenfd := (h.server source old server).2
      simp [listenfd] at other
    · intro server
      cases server
    · intro conn
      exact absurd conn (noConn source old)
    · intro _
      exact ⟨rfl, rfl⟩

theorem connClose_wired {w : World} (h : w.Wired)
    (watched : ∃ source ∈ w.vhostEvents, source.ops = .conn) (env : Env) :
    (connClose w env).1.Wired := by
  obtain ⟨source, member, conn⟩ := watched
  have connected : w.vdev.state = .connected := (h.conn source member conn).1
  have unwatched : w.vhostEvents.filter (·.fd != w.vdev.connfd) = [] := by
    refine List.filter_eq_nil_iff.2 fun source member => ?_
    cases ops : source.ops with
    | server =>
      have listening : w.vdev.state = .listening := (h.server source member ops).1
      rw [connected] at listening
      cases listening
    | conn => simpa using (h.conn source member ops).2
  have disabled : ∀ vring ∈ (dropConnection w).vdev.vrings, vring.isEnabled = false :=
    not_enabled_of_disabledAt fun index below => dropConnection_disabledAt w <| by
      rwa [dropConnection_length, h.length_vrings] at below
  have dropped := dropConnection_connection w
  simp only [World.connection, Connection.mk.injEq, unwatched] at dropped
  obtain ⟨-, -, state, maxQueues, -, events⟩ := dropped
  rw [connected] at state
  have length :
      (dropConnection w).vdev.vrings.length = (dropConnection w).vdev.maxQueues.toNat := by
    rw [dropConnection_length, maxQueues]
    exact h.length_vrings
  unfold connClose
  rw [changeDeviceState_of_connected connected]
  generalize dropConnection w = dropped at disabled state events length ⊢
  rcases armListen_cases dropped env with ⟨armed, -⟩ | ⟨armed, -⟩ <;> rw [armed] <;>
    refine ⟨?_, ?_, ?_, fun vring member enabled => by simp [disabled vring member] at enabled,
      length⟩ <;>
    simp [World.connection, state, events]

theorem connRead_frame (w : World) (incoming : Incoming) (env : Env) :
    HandlerFrame w (connRead w incoming env).1 := by
  unfold connRead
  dsimp only
  split_ifs
  · exact HandlerFrame.refl w
  · exact vhostHandleRequest_frame w _ _ env

theorem connRead_attached {w : World} (h : AllAttached w) (incoming : Incoming) (env : Env) :
    AllAttached (connRead w incoming env).1 := by
  unfold connRead
  dsimp only
  split_ifs
  · exact h
  · exact vhostHandleRequest_attached h _ _ env

theorem vringIoEvent_wired {w : World} (h : w.Wired) (env : Env) (index : Nat) :
    (vringIoEvent w env index).1.Wired := by
  rcases vringIoEvent_cases w env index with unchanged | ⟨vring, found, enabled, advanced⟩
  · rw [unchanged]
    exact h
  · rw [advanced]
    exact h.of_frame (h.enabled vring (List.getElem?_mem found) enabled)
      ((KeepsVrings.emit w _).toHandlerFrame.trans (HandlerFrame.setVring _ _ _))

/-- Every reachable device is wired: see `Connection.Wired`. -/
theorem Reachable.wired {w : World} (h : Reachable w) : w.Wired := by
  induction h with
  | init initialized => exact vhdVdevInitServer_wired initialized
  | @step w event env _ deliverable ih =>
    cases event with
    | serverRead => exact serverRead_wired ih deliverable env
    | serverClose => exact ih
    | connRead incoming =>
      obtain ⟨source, member, conn⟩ := deliverable
      exact ih.of_frame (ih.conn source member conn).1 (connRead_frame w incoming env)
    | connClose => exact connClose_wired ih deliverable env
    | vringIo index => exact vringIoEvent_wired ih env index

/-- In every run, every vring stays attached to exactly what it is enabled
with, and notifies through its `callfd` while enabled. -/
theorem Reachable.allAttached {w : World} (h : Reachable w) : AllAttached w := by
  induction h with
  | init initialized =>
    rw [vhdVdevInitServer_eq initialized]
    intro vring member
    rw [(List.mem_replicate.1 member).2]
    exact vhdVringInit_attached
  | @step w event env _ _ ih =>
    cases event with
    | serverRead => exact ih.of_vrings (serverRead_cases w env).1
    | serverClose => exact ih
    | connRead incoming => exact connRead_attached ih incoming env
    | connClose => exact changeDeviceState_attached ih .listening env
    | vringIo index => exact vringIoEvent_attached ih env index

/-! ## A calm environment -/

/-- The environment in which every call succeeds: `accept` returns socket 4,
every `mmap` maps at `0x100000`, the inflight memfd is 9, every send sends a
whole `u64` reply, and a dispatch consumes one descriptor. The concrete runs of
the later modules perturb it one call at a time. -/
def Env.calm : Env :=
  { getFeatures := 0, getConfig := fun size => size.toUInt64,
    mmapRegion := fun _ => .ok ⟨0x100000, by decide⟩, memfdCreate := .ok 9, ftruncate := .ok (),
    mmapInflight := .ok ⟨0x200000, by decide⟩, virtqAttach := 0, attachEvent := 0,
    sendReply := .ok 20, sendAck := .ok 20, accept := .ok 4, fcntlGetfl := .ok 0,
    fcntlSetfl := .ok (), addVhostEvent := 0, uninitializedFds := List.replicate 8 (-1),
    dispatchAdvance := 1, dispatchResult := 0 }

/-- A message that arrives whole, with the descriptors `fds` if it carries any. -/
def Incoming.whole (msg : Msg) (fds : Option (List Int)) : Incoming :=
  { recvLen := .ok vhostMsgHdrSize, msg, scmRights := fds, readLen := .ok msg.size.toNat }

/-- The device a successful `vhd_vdev_init_server` with one queue leaves
around listen socket 3. -/
def World.fresh : World :=
  { vdev := { Vdev.init 3 1 with state := .listening }, vhostEvents := [⟨3, .server⟩],
    rqEvents := [], listed := true, effects := [] }

theorem reachable_fresh : Reachable World.fresh := @Reachable.init 1 3 Env.calm _ rfl

/-! ## Queue bounds

`get_vring` checks an index against `num_queues` and then indexes the array
`vhd_vdev_init_server` allocated with `max_queues` entries; the loops of
`change_device_state` and `vhd_vdev_uninit` run up to `max_queues`. Nothing
after the initialisation writes either count or resizes the array, so these
accesses stay inside it in every run. -/

/-- The two queue counts of a device and the length of its vring array. -/
def Vdev.queueCounts (vdev : Vdev) : UInt32 × UInt32 × Nat :=
  (vdev.maxQueues, vdev.numQueues, vdev.vrings.length)

/-- The queue bounds of a device: `num_queues` is `max_queues`, which is the
`int` argument `vhd_vdev_init_server` verified positive, and there is one
vring per queue. -/
structure Vdev.QueueBounds (vdev : Vdev) : Prop where
  numQueues : vdev.numQueues = vdev.maxQueues
  positive : 0 < vdev.maxQueues.toNat
  fits : vdev.maxQueues.toNat < 2 ^ 31
  length_vrings : vdev.vrings.length = vdev.maxQueues.toNat

theorem Vdev.QueueBounds.of_queueCounts {vdev vdev' : Vdev} (h : vdev.QueueBounds)
    (same : vdev'.queueCounts = vdev.queueCounts) : vdev'.QueueBounds := by
  simp only [Vdev.queueCounts, Prod.mk.injEq] at same
  obtain ⟨maxQueues, numQueues, length⟩ := same
  exact ⟨by rw [numQueues, maxQueues]; exact h.numQueues, by rw [maxQueues]; exact h.positive,
    by rw [maxQueues]; exact h.fits, by rw [length, maxQueues]; exact h.length_vrings⟩

theorem HandlerFrame.queueCounts {w w' : World} (h : HandlerFrame w w') :
    w'.vdev.queueCounts = w.vdev.queueCounts :=
  Prod.ext (congrArg Connection.maxQueues h.connection)
    (Prod.ext (congrArg Connection.numQueues h.connection) h.length_vrings)

theorem armListen_queueCounts (w : World) (env : Env) :
    (armListen w env).1.vdev.queueCounts = w.vdev.queueCounts := by
  rcases armListen_cases w env with ⟨armed, -⟩ | ⟨armed, -⟩ <;> rw [armed]
  rfl

theorem dropConnection_queueCounts (w : World) :
    (dropConnection w).vdev.queueCounts = w.vdev.queueCounts := by
  have kept := dropConnection_connection w
  simp only [World.connection, Connection.mk.injEq] at kept
  obtain ⟨-, -, -, maxQueues, numQueues, -⟩ := kept
  simp only [Vdev.queueCounts, maxQueues, numQueues, dropConnection_length]

theorem changeDeviceState_queueCounts (w : World) (newState : VdevState) (env : Env) :
    (changeDeviceState w newState env).1.vdev.queueCounts = w.vdev.queueCounts := by
  unfold changeDeviceState
  split
  · rw [armListen_queueCounts, dropConnection_queueCounts]
  · exact armListen_queueCounts w env
  · split <;> rfl
  · rfl

/-- No callback writes a queue count or resizes the vring array. -/
theorem deliver_queueCounts (w : World) (env : Env) (event : Event) :
    (deliver w env event).1.vdev.queueCounts = w.vdev.queueCounts := by
  cases event with
  | serverRead =>
    obtain ⟨vrings, ⟨_, kept⟩ | ⟨_, -, kept⟩⟩ := serverRead_cases w env <;>
      exact Prod.ext (congrArg Connection.maxQueues kept)
        (Prod.ext (congrArg Connection.numQueues kept) (congrArg List.length vrings))
  | serverClose => rfl
  | connRead incoming => exact (connRead_frame w incoming env).queueCounts
  | connClose => exact changeDeviceState_queueCounts w .listening env
  | vringIo index =>
    dsimp only [deliver]
    rcases vringIoEvent_cases w env index with unchanged | ⟨vring, -, -, advanced⟩
    · rw [unchanged]
    · rw [advanced]
      exact ((KeepsVrings.emit w _).toHandlerFrame.trans (HandlerFrame.setVring _ _ _)).queueCounts

theorem vhdVdevInitServer_queueBounds {maxQueues : UInt32} {listenfd : Int} {env : Env}
    {w : World} (h : vhdVdevInitServer maxQueues listenfd env = some (w, 0)) :
    w.vdev.QueueBounds := by
  have verified : ¬(maxQueues = 0 ∨ 2 ^ 31 ≤ maxQueues.toNat) := fun invalid => by
    rw [vhdVdevInitServer, if_pos invalid] at h
    cases h
  rw [vhdVdevInitServer_eq h]
  refine ⟨rfl, ?_, ?_, by simp [Vdev.init]⟩ <;> simp only [not_or] at verified
  · exact Nat.pos_of_ne_zero fun zero => verified.1 (UInt32.toNat.inj zero)
  · exact Nat.lt_of_not_le verified.2

theorem Reachable.queueBounds {w : World} (h : Reachable w) : w.vdev.QueueBounds := by
  induction h with
  | init initialized => exact vhdVdevInitServer_queueBounds initialized
  | step _ _ ih => exact ih.of_queueCounts (deliver_queueCounts _ _ _)

/-- Within the bounds, `get_vring` finds a vring exactly for the indices below
`num_queues`: the pointer it returns never lies past the array. -/
theorem Vdev.QueueBounds.getVring_isSome {vdev : Vdev} (h : vdev.QueueBounds) (index : UInt32) :
    (getVring vdev index).isSome ↔ index < vdev.numQueues := by
  have counts := h.length_vrings
  rw [← congrArg UInt32.toNat h.numQueues] at counts
  unfold getVring
  by_cases beyond : vdev.numQueues ≤ index
  · rw [if_pos beyond]
    simp only [Option.isSome_none, Bool.false_eq_true, false_iff]
    exact fun below => absurd (BitVec.lt_def.1 below) (Nat.not_lt.2 (BitVec.le_def.1 beyond))
  · rw [if_neg beyond]
    have below : index.toNat < vdev.numQueues.toNat := Nat.lt_of_not_le (mt BitVec.le_def.2 beyond)
    simp only [List.getElem?_eq_getElem (counts ▸ below), Option.isSome_some, true_iff]
    exact BitVec.lt_def.2 below

/-- In every run, `num_queues = max_queues`, a positive `int`, and the vring
array has one entry per queue; so `get_vring` returns a vring exactly for the
indices below `num_queues`, and every index below `max_queues` that the loops
of `change_device_state` and `vhd_vdev_uninit` visit names a vring. -/
theorem reachable_getVring_inBounds {w : World} (h : Reachable w) :
    w.vdev.QueueBounds ∧ (∀ index : UInt32, (getVring w.vdev index).isSome ↔ index < w.vdev.numQueues) ∧
      ∀ index < w.vdev.maxQueues.toNat, (w.vdev.vrings[index]?).isSome :=
  ⟨h.queueBounds, h.queueBounds.getVring_isSome, fun index below => by
    simp [List.getElem?_eq_getElem (h.queueBounds.length_vrings ▸ below)]⟩

theorem fresh_getVring_inBounds :
    Reachable World.fresh ∧ World.fresh.vdev.QueueBounds ∧
      (∀ index : UInt32, (getVring World.fresh.vdev index).isSome ↔
        index < World.fresh.vdev.numQueues) ∧
      ∀ index < World.fresh.vdev.maxQueues.toNat, (World.fresh.vdev.vrings[index]?).isSome :=
  ⟨reachable_fresh, reachable_getVring_inBounds reachable_fresh⟩

end VhostServer
