import Mathlib.Data.UInt
import VhostServer.Enable

/-!
# Stopping a vring while its request queue runs

In legacy mode `GET_VRING_BASE` stops the vring it names and replies with the
base the master resumes from. The vhost loop does this in three steps: read
`last_avail` into `vq_base`, stop the vring (detach its kick fd, release the
virtqueue), send `vq_base`. The request queue runs on its own loop, and until
the kick fd is detached it may dispatch descriptors, each advancing
`last_avail`. This module interleaves the two loops step by step.

The phases carry two ghost counters: `window`, the descriptors dispatched
between the read and the stop, and `atStop`, `last_avail` at the stop. Over
every interleaving the reply carries `atStop - window` (`stopRun_replied`):
the base equals `last_avail` at the stop exactly when nothing was dispatched
in the window, which is the quiescence callers are assumed to provide.
`getBaseStep` is `vhost_get_vring_base` cut at its statements; run back to
back its three steps give that function's result, which ties the interleaved
model to the handler of the protocol engine.
-/

namespace VhostServer

/-- How far the vhost loop has got through a `GET_VRING_BASE`, with the ghost
counters `window` and `atStop`. -/
inductive GetBasePhase where
  | start
  | read (vqBase window : UInt16)
  | stopped (vqBase window atStop : UInt16)
  | replied (vqBase window atStop : UInt16)
  deriving DecidableEq, Repr

/-- Count `advance` dispatched descriptors into the window, if it is open. -/
def GetBasePhase.dispatched (advance : UInt16) : GetBasePhase → GetBasePhase
  | .read vqBase window => .read vqBase (window + advance)
  | phase => phase

/-- A step of either loop: the request queue dispatching the vring, or the
vhost loop's next step through `vhost_get_vring_base`. -/
inductive StopEvent where
  | dispatch (env : Env)
  | vhost (env : Env)

/-- The vhost loop's next step through `vhost_get_vring_base` for `msg`. The
vring is looked up again at the stop, through the same pointer; a refused
request (no such vring, a failed stop) ends the run. -/
def getBaseStep (msg : Msg) (env : Env) :
    World × GetBasePhase → Option (World × GetBasePhase)
  | (w, .start) =>
    match getVring w.vdev msg.payload.vringState.index with
    | none => none
    | some vring => some (w, .read vring.vq.lastAvail 0)
  | (w, .read vqBase window) =>
    match getVring w.vdev msg.payload.vringState.index with
    | none => none
    | some vring =>
      if !hasFeature w.vdev.negotiatedFeatures vhostUserFProtocolFeatures then
        let stopped := vringSetEnable w env msg.payload.vringState.index.toNat vring false
        if stopped.2 != 0 then none
        else some (stopped.1, .stopped vqBase window vring.vq.lastAvail)
      else some (w, .stopped vqBase window vring.vq.lastAvail)
  | (w, .stopped vqBase window atStop) =>
    some ((vhostSendReply w msg vqBase.toUInt64 env.sendReply).1, .replied vqBase window atStop)
  | (_, .replied ..) => none

/-- The request queue runs `vring_io_event` for the vring, if its kick fd is
registered; what an enabled vring dispatches is counted into the window. -/
def dispatchStep (index : Nat) (env : Env) :
    World × GetBasePhase → Option (World × GetBasePhase)
  | (w, phase) =>
    if w.rqEvents.any (·.vring == index) then
      let counted := match w.vdev.vrings[index]? with
        | some vring => if vring.isEnabled then phase.dispatched env.dispatchAdvance else phase
        | none => phase
      some ((vringIoEvent w env index).1, counted)
    else none

/-- Run the two loops through `events`; `none` if some step could not happen. -/
def stopRun (msg : Msg) :
    World × GetBasePhase → List StopEvent → Option (World × GetBasePhase)
  | state, [] => some state
  | state, .dispatch env :: events =>
    (dispatchStep msg.payload.vringState.index.toNat env state).bind (stopRun msg · events)
  | state, .vhost env :: events => (getBaseStep msg env state).bind (stopRun msg · events)

/-! ## The invariant -/

/-- What each phase knows: while the window is open, the vring's `last_avail`
is `vq_base` plus the window; from the stop on, `atStop` is; once replied, the
reply carrying `vq_base` has been sent. -/
def GetBasePhase.Consistent (msg : Msg) (w : World) : GetBasePhase → Prop
  | .start => True
  | .read vqBase window =>
    ∀ vring, getVring w.vdev msg.payload.vringState.index = some vring →
      vring.vq.lastAvail = vqBase + window
  | .stopped vqBase window atStop => atStop = vqBase + window
  | .replied vqBase window atStop =>
    atStop = vqBase + window ∧
      ∃ sock, Effect.send sock (replyMsg msg vqBase.toUInt64) [] ∈ w.effects

theorem vhostSendFds_effects (w : World) (msg : Msg) (fds : List Int)
    (sent : Except Errno Nat) :
    (vhostSendFds w msg fds sent).1.effects = w.effects ++ [.send w.vdev.connfd msg fds] := by
  unfold vhostSendFds
  split
  · rfl
  · split_ifs <;> rfl

theorem getBaseStep_consistent {msg : Msg} {env : Env} {w w' : World} {phase phase' : GetBasePhase}
    (h : phase.Consistent msg w) (step : getBaseStep msg env (w, phase) = some (w', phase')) :
    phase'.Consistent msg w' := by
  cases phase with
  | start =>
    simp only [getBaseStep] at step
    split at step
    · cases step
    · rename_i vring found
      cases step
      intro other found'
      rw [found] at found'
      cases found'
      exact (add_zero _).symm
  | read vqBase window =>
    simp only [getBaseStep] at step
    split at step
    · cases step
    · rename_i vring found
      have atStop : vring.vq.lastAvail = vqBase + window := h vring found
      split_ifs at step <;> cases step <;> exact atStop
  | stopped vqBase window atStop =>
    simp only [getBaseStep, Option.some.injEq, Prod.mk.injEq] at step
    obtain ⟨rfl, rfl⟩ := step
    refine ⟨h, w.vdev.connfd, ?_⟩
    simp [vhostSendReply, vhostSend, vhostSendFds_effects]
  | replied => simp [getBaseStep] at step

theorem dispatchStep_consistent {msg : Msg} {env : Env} {w w' : World} {phase phase' : GetBasePhase}
    (h : phase.Consistent msg w)
    (step : dispatchStep msg.payload.vringState.index.toNat env (w, phase) = some (w', phase')) :
    phase'.Consistent msg w' := by
  simp only [dispatchStep] at step
  split_ifs at step with registered
  simp only [Option.some.injEq, Prod.mk.injEq] at step
  obtain ⟨rfl, rfl⟩ := step
  unfold vringIoEvent
  cases found : w.vdev.vrings[msg.payload.vringState.index.toNat]? with
  | none => exact h
  | some vring =>
    by_cases enabled : vring.isEnabled
    · simp only [enabled, Bool.not_true, Bool.false_eq_true, ite_false]
      cases phase with
      | start => trivial
      | read vqBase window =>
        intro advanced found'
        have inRange := (List.getElem?_eq_some_iff.1 found).1
        have below : ¬ w.vdev.numQueues ≤ msg.payload.vringState.index := fun beyond => by
          simp [getVring, beyond] at found'
        have old : vring.vq.lastAvail = vqBase + window :=
          h vring (by simp [getVring, below, found])
        simp only [getVring, World.setVring_vdev, World.emit_vdev, below, ite_false,
          List.getElem?_set_self inRange, Option.some.injEq] at found'
        subst found'
        show vring.vq.lastAvail + env.dispatchAdvance = vqBase + (window + env.dispatchAdvance)
        rw [old, add_assoc]
      | stopped => exact h
      | replied vqBase window atStop =>
        obtain ⟨atStop, sock, sent⟩ := h
        exact ⟨atStop, sock, by simp [sent]⟩
    · simp only [enabled, Bool.not_false, ite_true, Bool.false_eq_true, ite_false]
      exact h

/-- The invariant holds along every interleaving. -/
theorem stopRun_consistent {msg : Msg} :
    ∀ (events : List StopEvent) {w w' : World} {phase phase' : GetBasePhase},
      phase.Consistent msg w → stopRun msg (w, phase) events = some (w', phase') →
        phase'.Consistent msg w'
  | [], _, _, _, _, h, run => by
    cases run
    exact h
  | .dispatch env :: events, _, _, _, _, h, run => by
    simp only [stopRun, Option.bind_eq_some] at run
    obtain ⟨⟨_, _⟩, step, rest⟩ := run
    exact stopRun_consistent events (dispatchStep_consistent h step) rest
  | .vhost env :: events, _, _, _, _, h, run => by
    simp only [stopRun, Option.bind_eq_some] at run
    obtain ⟨⟨_, _⟩, step, rest⟩ := run
    exact stopRun_consistent events (getBaseStep_consistent h step) rest

/-- Over every interleaving of the request queue with a `GET_VRING_BASE` that
stops the vring, once the reply is out it carries `vq_base`, which is
`last_avail` at the stop minus what was dispatched between the read and the
stop. -/
theorem stopRun_replied {msg : Msg} {events : List StopEvent} {w w' : World}
    {vqBase window atStop : UInt16}
    (run : stopRun msg (w, .start) events = some (w', .replied vqBase window atStop)) :
    vqBase = atStop - window ∧
      ∃ sock, Effect.send sock (replyMsg msg vqBase.toUInt64) [] ∈ w'.effects := by
  obtain ⟨atStop, sent⟩ :=
    stopRun_consistent events (show GetBasePhase.start.Consistent msg w from trivial) run
  exact ⟨eq_sub_of_add_eq atStop.symm, sent⟩

theorem vringSetEnable_false_snd (w : World) (env : Env) (index : Nat) (vring : Vring) :
    (vringSetEnable w env index vring false).2 = 0 := by
  unfold vringSetEnable
  split_ifs with same enable
  · rfl
  · exact enable.elim
  · rfl

/-- The vhost loop's three steps, run back to back, are
`vhost_get_vring_base`. -/
theorem stopRun_eq_vhostGetVringBase {w : World} {msg : Msg} {env : Env} {vring : Vring}
    (found : getVring w.vdev msg.payload.vringState.index = some vring) :
    stopRun msg (w, .start) [.vhost env, .vhost env, .vhost env] =
      some ((vhostGetVringBase w msg env).1, .replied vring.vq.lastAvail 0 vring.vq.lastAvail) := by
  simp only [stopRun, getBaseStep, found, Option.some_bind, vhostGetVringBase]
  split <;> simp [vringSetEnable_false_snd]

/-- Vring 0 runs, and the request queue dispatches one descriptor between the
read of `last_avail` and the stop. -/
def dispatchInWindow : List StopEvent :=
  [.vhost Env.calm, .dispatch Env.calm, .vhost Env.calm, .vhost Env.calm]

/-- The two loops after `dispatchInWindow`. -/
def stoppedAfterDispatch : World :=
  ((stopRun getVringZeroBase (kickedOnce, .start) dispatchInWindow).map Prod.fst).getD kickedOnce

/-- The reply carries base 0 while `last_avail` was 1 when the vring stopped. -/
theorem dispatchInWindow_replies_stale_base :
    stopRun getVringZeroBase (kickedOnce, .start) dispatchInWindow =
      some (stoppedAfterDispatch, .replied 0 1 1) :=
  rfl

theorem dispatchInWindow_replied :
    stopRun getVringZeroBase (kickedOnce, .start) dispatchInWindow =
        some (stoppedAfterDispatch, .replied 0 1 1) ∧
      ((0 : UInt16) = 1 - 1 ∧
        ∃ sock, Effect.send sock (replyMsg getVringZeroBase (0 : UInt16).toUInt64) [] ∈
          stoppedAfterDispatch.effects) :=
  ⟨rfl, stopRun_replied
    (rfl : stopRun getVringZeroBase (kickedOnce, .start) dispatchInWindow = _)⟩

end VhostServer
