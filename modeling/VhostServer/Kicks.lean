import VhostServer.MemoryTable

/-!
# Kicks and the request queue

The request queue runs `vring_io_event` for a kick fd registered on it, in its
own thread, while the vhost loop handles messages. This module interleaves the
two.

`vring_set_enable` registers the kick fd before it sets `is_enabled`, so a kick
delivered between the two writes finds the vring disabled
(`vringSetEnableTrace_disabled_window`). A vring stopped after `SET_VRING_KICK`
replaced its kick fd leaves the old fd registered, so the error branch is
reached in a plain run as well (`kickedTwiceStopped_kick_on_disabled`).

The kick model adds the guest, which publishes descriptors and signals the
vring's kick fd, and splits the callback into its clear and its dispatch. A
kick the guest signals on a kick fd that replaced the registered one is never
delivered: the request queue is idle, no registered fd is readable, and a
published descriptor is never dispatched (`lostKick_not_dispatched`).
Short of that, the callback's clear before its dispatch loses nothing. While
each enabled vring's kick fd is registered for it, no two share one, and no
message arrives, every run of the guest and the request queue loses no kick
(`kickRun_noKickLost`).
-/

namespace VhostServer

/-- `vring_io_event` on a vring that is not enabled takes its error branch and
changes nothing. -/
theorem vringIoEvent_of_not_enabled {w : World} {index : Nat} (disabled : w.enabledAt index = false)
    (env : Env) : vringIoEvent w env index = (w, -EINVAL) := by
  unfold vringIoEvent
  split
  · rfl
  · rename_i vring found
    rw [World.enabledAt_of_found found] at disabled
    simp [disabled]

/-! ## The writes of `vring_set_enable` -/

/-- The worlds `vring_set_enable` leaves after each write of the vhost loop, in
source order. Enabling attaches the virtqueue, sets its notify fd, registers the
kick fd and sets `is_enabled`; when the registration fails it releases the
virtqueue instead. Disabling detaches the kick fd, releases the virtqueue and
clears `is_enabled`. A call that returns before writing leaves no world. -/
def vringSetEnableTrace (w : World) (env : Env) (index : Nat) (vring : Vring) (doEnable : Bool) :
    List World :=
  if doEnable == vring.isEnabled then []
  else if doEnable then
    if env.virtqAttach != 0 then []
    else
      let attached := { vring with vq := vring.vq.attach vring.clientInfo }
      let notified := { attached with vq := attached.vq.setNotifyFd vring.callfd }
      if env.attachEvent != 0 then
        [w.setVring index attached, w.setVring index notified,
          w.setVring index { notified with vq := notified.vq.release }]
      else
        let registered := (w.setVring index notified).attachEvent vring.kickfd index
        [w.setVring index attached, w.setVring index notified, registered,
          registered.setVring index { notified with isEnabled := true }]
  else
    let detached := w.detachEvent vring.kickfd
    let released := { vring with vq := vring.vq.release }
    [detached, detached.setVring index released,
      detached.setVring index { released with isEnabled := false }]

/-- The trace ends where `vring_set_enable` ends: its last world is the one
the whole call leaves. -/
theorem vringSetEnableTrace_getLastD (w : World) (env : Env) (index : Nat) (vring : Vring)
    (doEnable : Bool) :
    (vringSetEnableTrace w env index vring doEnable).getLastD w =
      (vringSetEnable w env index vring doEnable).1 := by
  unfold vringSetEnableTrace vringSetEnable vringEnable vringDisable
  dsimp only
  split_ifs <;> simp [World.setVring, World.attachEvent, Vring.stop]

/-- Every enable of a disabled vring that succeeds passes through a world in
which the vring's kick fd is registered on the request queue while the vring is
still disabled. A kick delivered there takes the error branch of
`vring_io_event`, whatever the device type answers. -/
theorem vringSetEnableTrace_disabled_window {w : World} {env : Env} {index : Nat}
    {vring : Vring} (found : w.vdev.vrings[index]? = some vring) (disabled : vring.isEnabled = false)
    (started : (vringSetEnable w env index vring true).2 = 0) :
    ∃ window ∈ vringSetEnableTrace w env index vring true,
      ⟨vring.kickfd, index⟩ ∈ window.rqEvents ∧
        ∀ env', vringIoEvent window env' index = (window, -EINVAL) := by
  have attach : env.virtqAttach = 0 := by
    by_contra failed
    simp [vringSetEnable, vringEnable, disabled, failed] at started
  have register : env.attachEvent = 0 := by
    by_contra failed
    simp [vringSetEnable, vringEnable, disabled, attach, failed] at started
  unfold vringSetEnableTrace
  rw [if_neg (by simp [disabled]), if_pos rfl, if_neg (by simp [attach]),
    if_neg (by simp [register])]
  refine ⟨_, List.mem_cons_of_mem _ (List.mem_cons_of_mem _ (List.mem_cons_self _ _)), by simp, ?_⟩
  refine vringIoEvent_of_not_enabled ?_
  have registered : ∀ x : World, (x.attachEvent vring.kickfd index).enabledAt index =
      x.enabledAt index := fun _ => rfl
  rw [registered, World.enabledAt_of_found (World.getElem?_setVring_self found _)]
  exact disabled

/-- The vring `SET_VRING_KICK` with fd 5 stores in the first master's device,
before `vring_set_enable` starts it. -/
def kickStored : World := firstMaster.setVring 0 { vhdVringInit with kickfd := 5 }

theorem kickStored_disabled_window :
    kickStored.vdev.vrings[0]? = some { vhdVringInit with kickfd := 5 } ∧
      ({ vhdVringInit with kickfd := 5 } : Vring).isEnabled = false ∧
      (vringSetEnable kickStored Env.calm 0 { vhdVringInit with kickfd := 5 } true).2 = 0 ∧
      ∃ window ∈ vringSetEnableTrace kickStored Env.calm 0 { vhdVringInit with kickfd := 5 } true,
        ⟨5, 0⟩ ∈ window.rqEvents ∧ ∀ env', vringIoEvent window env' 0 = (window, -EINVAL) :=
  have found : kickStored.vdev.vrings[0]? = some { vhdVringInit with kickfd := 5 } := by decide
  have started : (vringSetEnable kickStored Env.calm 0 { vhdVringInit with kickfd := 5 } true).2 = 0 :=
    by decide
  ⟨found, rfl, started, vringSetEnableTrace_disabled_window found rfl started⟩

/-- `kickedTwice` stops vring 0 and the request queue still polls fd 5 for it:
the loop can deliver the kick, and `vring_io_event` takes its error branch. -/
theorem kickedTwiceStopped_kick_on_disabled :
    Reachable kickedTwiceStopped ∧ (Event.vringIo 0).Deliverable kickedTwiceStopped ∧
      kickedTwiceStopped.enabledAt 0 = false ∧
      ∀ env, vringIoEvent kickedTwiceStopped env 0 = (kickedTwiceStopped, -EINVAL) :=
  have disabled : kickedTwiceStopped.enabledAt 0 = false := by decide
  ⟨reachable_kickedOnce.connRead _ _ ⟨⟨4, .conn⟩, by decide, rfl⟩ |>.connRead _ _
      ⟨⟨4, .conn⟩, by decide, rfl⟩,
    ⟨⟨5, 0⟩, by decide, rfl⟩, disabled, vringIoEvent_of_not_enabled disabled⟩

/-! ## Guest, request queue and vhost loop -/

/-- What the kick model keeps beside the device: the descriptors the guest
published on each vring, how many of them were passed to `dispatch_requests`,
the eventfds signalled and not cleared, how many descriptors each vring had when
its kick fd was last signalled, and the vring whose callback the request queue
is running. -/
structure KickState where
  world : World
  published : Nat → Nat
  dispatched : Nat → Nat
  readable : List Int
  signalled : Nat → Nat
  busy : Option Nat

/-- Nothing published, nothing signalled, the request queue idle. -/
def KickState.start (w : World) : KickState := ⟨w, fun _ => 0, fun _ => 0, [], fun _ => 0, none⟩

/-- A step of one of the three parties. -/
inductive KickStep where
  /-- The guest publishes a descriptor on a vring, then signals its kick fd. -/
  | guest (index : Nat)
  /-- The request queue runs `vring_io_event` for a readable kick fd registered
  on it: the `is_enabled` test, then the clearing of the vring's kick fd. Its
  effect on the device is `vringIoEvent`. -/
  | clear (fd : Int) (env : Env)
  /-- The request queue's `dispatch_requests` takes every descriptor published
  on the vring so far. -/
  | dispatch
  /-- The vhost loop handles a message on the watched connection. -/
  | vhost (incoming : Incoming) (env : Env)

/-- One step, or `none` where the party cannot take it. -/
def kickStep (s : KickState) : KickStep → Option KickState
  | .guest index =>
    match s.world.vdev.vrings[index]? with
    | none => none
    | some vring =>
      some { s with
        published := Function.update s.published index (s.published index + 1)
        signalled := Function.update s.signalled index (s.published index + 1)
        readable := vring.kickfd :: s.readable }
  | .clear fd env =>
    if s.busy.isSome || !s.readable.contains fd then none
    else
      match s.world.rqEvents.find? (·.fd == fd) with
      | none => none
      | some source =>
        match s.world.vdev.vrings[source.vring]? with
        | some vring =>
          if vring.isEnabled then
            some { s with
              world := (vringIoEvent s.world env source.vring).1
              readable := s.readable.filter (· != vring.kickfd)
              busy := some source.vring }
          else some s
        | none => some s
  | .dispatch =>
    match s.busy with
    | none => none
    | some index =>
      some { s with
        dispatched := Function.update s.dispatched index (s.published index), busy := none }
  | .vhost incoming env =>
    if s.world.vhostEvents.any (·.ops == .conn) then
      some { s with world := (connRead s.world incoming env).1 }
    else none

/-- Take the steps in order, as long as each can be taken. -/
def kickRun (s : KickState) : List KickStep → Option KickState
  | [] => some s
  | step :: rest => (kickStep s step).bind (kickRun · rest)

/-- No kick is lost in `s`: if the request queue is idle and no kick fd
registered for an enabled vring is readable, every descriptor published on an
enabled vring before its latest signal has been dispatched. -/
def NoKickLost (s : KickState) : Prop :=
  s.busy = none →
    (∀ source ∈ s.world.rqEvents, s.world.enabledAt source.vring = true →
      source.fd ∉ s.readable) →
    ∀ index, s.world.enabledAt index = true → s.signalled index ≤ s.dispatched index

/-- The master of `vringRunning` kicks vring 0 again, with fd 6. -/
def runningRekicked : World :=
  (connRead vringRunning (.whole kickVringZero (some [6])) Env.calm).1

/-- The guest's descriptor on vring 0 after the master replaced its kick fd by
fd 6: signalled on fd 6, which the request queue does not poll. -/
def lostKick : KickState :=
  { world := runningRekicked, published := Function.update (fun _ => 0) 0 1,
    dispatched := fun _ => 0, readable := [6], signalled := Function.update (fun _ => 0) 0 1,
    busy := none }

/-- From `vringRunning`, the master kicks vring 0 again with fd 6, then the
guest publishes a descriptor on vring 0 and signals fd 6. The request queue is
idle and no registered kick fd is readable, yet the descriptor was never
dispatched, and the request queue can take no step at all. -/
theorem lostKick_not_dispatched :
    kickRun (.start vringRunning)
        [.vhost (.whole kickVringZero (some [6])) Env.calm, .guest 0] = some lostKick ∧
      Reachable lostKick.world ∧ ¬ NoKickLost lostKick ∧
      ∀ fd env, kickStep lostKick (.clear fd env) = none ∧ kickStep lostKick .dispatch = none := by
  have registered : lostKick.world.rqEvents = [⟨5, 0⟩] := by decide
  have enabled : lostKick.world.enabledAt 0 = true := by decide
  refine ⟨rfl, reachable_vringRunning.connRead _ _ ⟨⟨4, .conn⟩, by decide, rfl⟩, ?_, ?_⟩
  · intro noneLost
    have unpolled : ∀ source ∈ lostKick.world.rqEvents, lostKick.world.enabledAt source.vring = true →
        source.fd ∉ lostKick.readable := by
      rw [registered]
      decide
    exact absurd (noneLost rfl unpolled 0 enabled) (by decide)
  · have idle : lostKick.busy = none := rfl
    have readable : lostKick.readable = [6] := rfl
    intro fd env
    refine ⟨?_, rfl⟩
    by_cases six : fd = 6
    · subst six
      simp [kickStep, idle, readable, registered]
    · simp [kickStep, idle, readable, six]

/-! ## No kick is lost while the vhost loop is idle

The request queue clears a vring's kick fd before it dispatches, and it
dispatches everything published so far, so a descriptor signalled after the
clear leaves the fd readable again. While no message changes the
registrations, every signal on an enabled vring is dispatched, is being
dispatched, or is still readable (`KicksPending`). This holds provided each
enabled vring's kick fd is registered for it and no two enabled vrings share
one (`KicksWired`). The lost kick above is a message breaking the first
condition. -/

/-- The kick fd and `is_enabled` of each vring, all the request queue reads of
them. -/
def World.kickWiring (w : World) : List (Int × Bool) :=
  w.vdev.vrings.map fun vring => (vring.kickfd, vring.isEnabled)

/-- Each enabled vring's kick fd is registered on the request queue for it,
and no two enabled vrings share a kick fd. -/
structure KicksWired (w : World) : Prop where
  registered : ∀ (index : Nat) (fd : Int), w.kickWiring[index]? = some (fd, true) →
    ⟨fd, index⟩ ∈ w.rqEvents
  distinct : ∀ (index other : Nat) (fd : Int), w.kickWiring[index]? = some (fd, true) →
    w.kickWiring[other]? = some (fd, true) → index = other

/-- Every signal on an enabled vring is dispatched, or the vring's callback is
running, or its kick fd is still readable; and no vring signalled more
descriptors than it published. -/
structure KicksPending (s : KickState) : Prop where
  signalled_le : ∀ index, s.signalled index ≤ s.published index
  pending : ∀ (index : Nat) (fd : Int), s.world.kickWiring[index]? = some (fd, true) →
    s.signalled index ≤ s.dispatched index ∨ s.busy = some index ∨ fd ∈ s.readable

/-- The step is the vhost loop's. -/
def KickStep.isVhost : KickStep → Bool
  | .vhost .. => true
  | _ => false

theorem World.kickWiring_getElem? {w : World} {index : Nat} {vring : Vring}
    (found : w.vdev.vrings[index]? = some vring) :
    w.kickWiring[index]? = some (vring.kickfd, vring.isEnabled) := by
  simp [World.kickWiring, found]

theorem KicksWired.of_eq {w w' : World} (h : KicksWired w) (wiring : w'.kickWiring = w.kickWiring)
    (events : w'.rqEvents = w.rqEvents) : KicksWired w' :=
  ⟨by rw [wiring, events]; exact h.registered, by rw [wiring]; exact h.distinct⟩

/-- `vring_io_event` moves no kick fd, starts or stops no vring, and registers
nothing. -/
theorem vringIoEvent_kickWiring (w : World) (env : Env) (index : Nat) :
    (vringIoEvent w env index).1.kickWiring = w.kickWiring ∧
      (vringIoEvent w env index).1.rqEvents = w.rqEvents := by
  rcases vringIoEvent_cases w env index with unchanged | ⟨vring, found, -, advanced⟩
  · rw [unchanged]
    exact ⟨rfl, rfl⟩
  · rw [advanced]
    refine ⟨List.ext_getElem? fun other => ?_, rfl⟩
    by_cases same : index = other
    · subst same
      have below := (List.getElem?_eq_some_iff.1 found).1
      simp only [World.kickWiring, World.setVring, World.emit_vdev, List.map_set]
      rw [List.getElem?_set_self (by rwa [List.length_map]), List.getElem?_map, found]
      rfl
    · simp [World.kickWiring, World.setVring, List.getElem?_set_ne same]

theorem kickStep_guest_pending {s s' : KickState} {index : Nat} (pending : KicksPending s)
    (stepped : kickStep s (.guest index) = some s') : s'.world = s.world ∧ KicksPending s' := by
  simp only [kickStep] at stepped
  split at stepped
  · cases stepped
  · rename_i vring found
    cases stepped
    refine ⟨rfl, fun other => ?_, fun other fd hit => ?_⟩
    · by_cases same : other = index
      · subst same
        simp
      · simpa [Function.update_noteq same] using pending.signalled_le other
    · by_cases same : other = index
      · subst same
        rw [World.kickWiring_getElem? found] at hit
        obtain ⟨rfl, -⟩ := Prod.mk.inj (Option.some.inj hit)
        exact .inr (.inr (List.mem_cons_self _ _))
      · rcases pending.pending other fd hit with done | running | readable
        · exact .inl (by simpa [Function.update_noteq same] using done)
        · exact .inr (.inl running)
        · exact .inr (.inr (List.mem_cons_of_mem _ readable))

theorem kickStep_clear_pending {s s' : KickState} {fd : Int} {env : Env}
    (wired : KicksWired s.world) (pending : KicksPending s)
    (stepped : kickStep s (.clear fd env) = some s') :
    s'.world.kickWiring = s.world.kickWiring ∧ s'.world.rqEvents = s.world.rqEvents ∧
      KicksPending s' := by
  simp only [kickStep] at stepped
  split at stepped
  · cases stepped
  · rename_i ready
    have idle : s.busy = none := by
      cases busy : s.busy
      · rfl
      · simp [busy] at ready
    split at stepped
    · cases stepped
    · rename_i source _
      split at stepped
      · rename_i vring found
        split at stepped
        · rename_i enabled
          cases stepped
          obtain ⟨wiring, events⟩ := vringIoEvent_kickWiring s.world env source.vring
          refine ⟨wiring, events, pending.signalled_le, fun other fd' hit => ?_⟩
          rw [wiring] at hit
          by_cases same : other = source.vring
          · exact .inr (.inl (congrArg some same.symm))
          · rcases pending.pending other fd' hit with done | running | readable
            · exact .inl done
            · rw [idle] at running
              cases running
            · have mine := World.kickWiring_getElem? found
              rw [enabled] at mine
              refine .inr (.inr (List.mem_filter.2 ⟨readable, bne_iff_ne.2 ?_⟩))
              rintro rfl
              exact same (wired.distinct _ _ _ hit mine)
        · cases stepped
          exact ⟨rfl, rfl, pending⟩
      · cases stepped
        exact ⟨rfl, rfl, pending⟩

theorem kickStep_dispatch_pending {s s' : KickState} (pending : KicksPending s)
    (stepped : kickStep s .dispatch = some s') : s'.world = s.world ∧ KicksPending s' := by
  simp only [kickStep] at stepped
  split at stepped
  · cases stepped
  · rename_i index busy
    cases stepped
    refine ⟨rfl, pending.signalled_le, fun other fd hit => ?_⟩
    by_cases same : other = index
    · subst same
      exact .inl (by simpa using pending.signalled_le other)
    · rcases pending.pending other fd hit with done | running | readable
      · exact .inl (by simpa [Function.update_noteq same] using done)
      · rw [busy] at running
        exact absurd (Option.some.inj running).symm same
      · exact .inr (.inr readable)

/-- A step of the guest or the request queue keeps the registrations, the kick
fds and `is_enabled`, and keeps every signal pending. -/
theorem kickStep_pending {s s' : KickState} {step : KickStep} (quiet : step.isVhost = false)
    (wired : KicksWired s.world) (pending : KicksPending s) (stepped : kickStep s step = some s') :
    KicksWired s'.world ∧ KicksPending s' := by
  cases step with
  | guest index =>
    obtain ⟨same, kept⟩ := kickStep_guest_pending pending stepped
    exact ⟨same ▸ wired, kept⟩
  | clear fd env =>
    obtain ⟨wiring, events, kept⟩ := kickStep_clear_pending wired pending stepped
    exact ⟨wired.of_eq wiring events, kept⟩
  | dispatch =>
    obtain ⟨same, kept⟩ := kickStep_dispatch_pending pending stepped
    exact ⟨same ▸ wired, kept⟩
  | vhost incoming env => cases quiet

theorem kickRun_pending : ∀ {s s' : KickState} (steps : List KickStep),
    (∀ step ∈ steps, step.isVhost = false) → KicksWired s.world → KicksPending s →
      kickRun s steps = some s' → KicksWired s'.world ∧ KicksPending s'
  | _, _, [], _, wired, pending, run => by
    cases run
    exact ⟨wired, pending⟩
  | _, _, step :: rest, quiet, wired, pending, run => by
    obtain ⟨mid, stepped, run⟩ := Option.bind_eq_some.1 run
    obtain ⟨wired', pending'⟩ :=
      kickStep_pending (quiet step (List.mem_cons_self _ _)) wired pending stepped
    exact kickRun_pending rest (fun step member => quiet step (List.mem_cons_of_mem _ member))
      wired' pending' run

/-- With the kick fds wired, a state where every signal is pending loses no
kick. -/
theorem KicksPending.noKickLost {s : KickState} (wired : KicksWired s.world)
    (pending : KicksPending s) : NoKickLost s := by
  intro idle unpolled index enabled
  cases found : s.world.vdev.vrings[index]? with
  | none => simp [World.enabledAt, found] at enabled
  | some vring =>
    have hit := World.kickWiring_getElem? found
    rw [← World.enabledAt_of_found found, enabled] at hit
    rcases pending.pending index _ hit with done | running | readable
    · exact done
    · rw [idle] at running
      cases running
    · exact absurd readable (unpolled _ (wired.registered index _ hit) enabled)

/-- While the vhost loop handles no message, no kick is lost. From a world in
which each enabled vring's kick fd is registered for it, and no two enabled
vrings share one, every run of the guest and the request queue reaches only
states where, once the request queue is idle and no registered kick fd of an
enabled vring is readable, every descriptor signalled on an enabled vring has
been dispatched. -/
theorem kickRun_noKickLost {w : World} (wired : KicksWired w) {steps : List KickStep}
    (quiet : ∀ step ∈ steps, step.isVhost = false) {s : KickState}
    (run : kickRun (.start w) steps = some s) : NoKickLost s :=
  have reached := kickRun_pending steps quiet wired
    ⟨fun _ => le_refl 0, fun _ _ _ => .inl (le_refl 0)⟩ run
  reached.2.noKickLost reached.1

theorem vringRunning_kicksWired : KicksWired vringRunning := by
  have wiring : vringRunning.kickWiring = [(5, true)] := by decide
  have events : vringRunning.rqEvents = [⟨5, 0⟩] := by decide
  refine ⟨fun index fd hit => ?_, fun index other fd hit hit' => ?_⟩
  · rw [wiring] at hit
    rcases index with _ | index
    · obtain rfl : 5 = fd := by simpa using hit
      rw [events]
      exact List.mem_singleton_self _
    · simp at hit
  · rw [wiring] at hit hit'
    rcases index with _ | index <;> rcases other with _ | other <;> simp_all

/-- The guest kicks vring 0 of `vringRunning`, the request queue clears fd 5,
the guest kicks again, and the request queue dispatches. -/
def kickedAroundClear : List KickStep := [.guest 0, .clear 5 Env.calm, .guest 0, .dispatch]

/-- Where `kickedAroundClear` ends: both descriptors dispatched, fd 5 readable
again for the second. -/
def kickedAroundClearState : KickState :=
  (kickRun (.start vringRunning) kickedAroundClear).getD (.start vringRunning)

example : kickedAroundClearState.dispatched 0 = 2 ∧ kickedAroundClearState.readable = [5] := by
  decide

theorem kickedAroundClear_noKickLost :
    KicksWired vringRunning ∧ (∀ step ∈ kickedAroundClear, step.isVhost = false) ∧
      kickRun (.start vringRunning) kickedAroundClear = some kickedAroundClearState ∧
      NoKickLost kickedAroundClearState :=
  ⟨vringRunning_kicksWired, by decide, rfl,
    @kickRun_noKickLost vringRunning vringRunning_kicksWired kickedAroundClear (by decide)
      kickedAroundClearState rfl⟩

end VhostServer
