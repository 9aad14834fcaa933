import AlarmRelay.Producer.Duty
import AlarmRelay.Proofs.Hub.Isolation
import AlarmRelay.Proofs.Hub.Ticking

/-!
# A producer that is shut down

At a waiting point a loop whose shutdown is there begins a further step only if a
tick is there too and the loop prefers it.  Inside of a step it looks at neither, so
a step goes on to its end: the loop is over only when everything that its steps
planned has been taken and everything that they announced has been fanned out.
-/

set_option autoImplicit false

namespace AlarmRelay

/-! ## The loop -/

namespace ProducerLoop

/-- What leaving a waiting point makes of a loop. -/
inductive Woken (now : Instant) (clock later : Timestamp) (store : AlarmStore)
    (preferTick : Bool) (loop : ProducerLoop) : ProducerLoop → Prop where
  | enters (phase : ProducerPhase) (new : loop.phase = .spawned)
      (calm : phase = .finished .panicked ∨ phase = .idle now 0) :
      Woken now clock later store preferTick loop { loop with phase := phase }
  | steps (origin : Instant) (ticks : Nat) (idle : loop.phase = .idle origin ticks)
      (due : loop.isDue now = true)
      (chosen : preferTick = true ∨ loop.cancelled = false) :
      Woken now clock later store preferTick loop
        { loop with
          producer := loop.producer.next
          phase := .stepping origin (ticks + 1)
            (loop.producer.plan clock later store) }
  | exits (origin : Instant) (ticks : Nat) (idle : loop.phase = .idle origin ticks)
      (cancelled : loop.cancelled = true)
      (passed : preferTick = true → loop.isDue now = false) :
      Woken now clock later store preferTick loop
        { loop with phase := .finished .exited }
  | rests (origin : Instant) (ticks : Nat)
      (done : loop.phase = .stepping origin ticks []) :
      Woken now clock later store preferTick loop
        { loop with phase := .idle origin ticks }

variable (loop next : ProducerLoop)

theorem isDue_idle (now origin : Instant) (ticks : Nat)
    (idle : loop.phase = .idle origin ticks) :
    loop.isDue now =
      decide (SnapshotLoop.dueAt origin loop.interval ticks ≤ now) := by
  simp [isDue, due?, idle]

/-- Only between steps a tick is there. -/
theorem isDue_busy (now : Instant)
    (busy : ∀ origin ticks, loop.phase ≠ .idle origin ticks) :
    loop.isDue now = false := by
  cases phase : loop.phase with
  | idle origin ticks => exact absurd phase (busy origin ticks)
  | _ => simp [isDue, due?, phase]

theorem wake_woken (now : Instant) (clock later : Timestamp) (store : AlarmStore)
    (preferTick : Bool) (signals : List Signal)
    (woken : loop.wake now clock later store preferTick = some (next, signals)) :
    loop.Woken now clock later store preferTick next := by
  cases phase : loop.phase with
  | spawned =>
      simp only [wake, phase, Option.some.injEq, Prod.mk.injEq] at woken
      rw [← woken.1]
      refine .enters _ phase ?_
      by_cases empty : loop.interval.isZero = true
      · exact Or.inl (if_pos empty)
      · exact Or.inr (if_neg empty)
  | idle origin ticks =>
      simp only [wake, phase, ← loop.isDue_idle now origin ticks phase] at woken
      split at woken
      case isTrue chosen =>
        cases woken
        rw [Bool.and_eq_true, Bool.or_eq_true, Bool.not_eq_true'] at chosen
        exact .steps origin ticks phase chosen.1 chosen.2
      case isFalse passed =>
        split at woken
        case isTrue cancelled =>
          cases woken
          refine .exits origin ticks phase cancelled ?_
          intro preferred
          simpa [preferred] using passed
        case isFalse => cases woken
  | stepping origin ticks actions =>
      cases actions with
      | nil =>
          simp only [wake, phase, Option.some.injEq, Prod.mk.injEq] at woken
          rw [← woken.1]
          exact .rests origin ticks phase
      | cons action rest => simp only [wake, phase, reduceCtorEq] at woken
  | finished result => simp only [wake, phase, reduceCtorEq] at woken

/-- A loop that is over waits for nothing. -/
theorem woken_unfinished (now : Instant) (clock later : Timestamp)
    (store : AlarmStore) (preferTick : Bool)
    (woken : loop.Woken now clock later store preferTick next) :
    loop.isFinished = false := by
  cases woken with
  | enters phase new calm => simp [isFinished, new]
  | steps origin ticks idle due chosen => simp [isFinished, idle]
  | exits origin ticks idle cancelled passed => simp [isFinished, idle]
  | rests origin ticks done => simp [isFinished, done]

/-- An action that a loop takes is the first one that it had still to do. -/
theorem takeAction_takes (action : ProducerAction)
    (taken : loop.takeAction = some (action, next)) :
    loop.pending = action :: next.pending ∧ next.cancelled = loop.cancelled ∧
      loop.isFinished = false ∧ next.isFinished = false := by
  unfold takeAction at taken
  split at taken
  case h_1 origin ticks first rest stepping =>
    cases taken
    exact ⟨by simp [pending, stepping], rfl, by simp [isFinished, stepping], rfl⟩
  case h_2 => cases taken

/-- A loop that is not over can go on wherever it need not wait for a fan-out. -/
theorem goes_on (now : Instant) (clock later : Timestamp) (store : AlarmStore)
    (cancelled : loop.cancelled = true) (unfinished : loop.isFinished = false) :
    loop.takeAction.isSome = true ∨
      (loop.wake now clock later store false).isSome = true := by
  cases phase : loop.phase with
  | spawned => exact Or.inr (by simp [wake, phase])
  | idle origin ticks => exact Or.inr (by simp [wake, phase, cancelled])
  | stepping origin ticks actions =>
      cases actions with
      | nil => exact Or.inr (by simp [wake, phase])
      | cons action rest => exact Or.inl (by simp [takeAction, phase])
  | finished result => simp [isFinished, phase] at unfinished

end ProducerLoop

namespace DutyMark

theorem plans_append (first second : List DutyMark) :
    plans (first ++ second) = plans first ++ plans second := by
  simp [plans]

theorem taken_append (first second : List DutyMark) :
    taken (first ++ second) = taken first ++ taken second := by
  simp [taken]

end DutyMark

/-! ## One event -/

namespace Duty

/-- What one event does to a duty. -/
inductive Effect (now : Instant) (duty : Duty) : DutyEvent → Duty → Prop where
  | shuts : Effect now duty .shutdown { duty with loop := duty.loop.cancel }
  | wakes (clock later : Timestamp) (preferTick : Bool) (loop : ProducerLoop)
      (free : duty.isWaiting = false)
      (woken : duty.loop.Woken now clock later duty.store preferTick loop) :
      Effect now duty (.wake clock later preferTick) { duty with loop := loop }
  | changes (action : ProducerAction) (loop : ProducerLoop)
      (free : duty.isWaiting = false)
      (taken : duty.loop.takeAction = some (action, loop))
      (silent : action.event? = none) :
      Effect now duty .act
        { duty with store := action.applyTo duty.store, loop := loop }
  | announces (event : AlarmEvent) (loop : ProducerLoop) (step : Progress)
      (free : duty.isWaiting = false)
      (taken : duty.loop.takeAction = some (.announce event, loop))
      (reacted : duty.hub.react now (.ask (.publish event)) = some step) :
      Effect now duty .act { duty with
        hub := step.hub
        loop := loop
        awaited := some duty.hub.nextOperation
        announced := duty.announced ++ [(duty.hub.nextOperation, event)] }
  | passes (event : HubEvent) (step : Progress)
      (permitted : duty.permits event = true)
      (reacted : duty.hub.react now event = some step) :
      Effect now duty (.hub event) { duty with hub := step.hub }
  | shares (change : StoreWrite) :
      Effect now duty (.write change)
        { duty with store := duty.store.write change }

variable (duty next : Duty) (now : Instant)

theorem react_effect (event : DutyEvent)
    (reacted : duty.react now event = some next) : Effect now duty event next := by
  cases event with
  | shutdown =>
      cases reacted
      exact .shuts
  | wake clock later preferTick =>
      simp only [react] at reacted
      split at reacted
      case isTrue => cases reacted
      case isFalse free =>
        obtain ⟨⟨loop, signals⟩, woken, rfl⟩ :=
          Option.map_eq_some_iff.mp reacted
        exact .wakes clock later preferTick loop (by simpa using free)
          (duty.loop.wake_woken loop now clock later duty.store preferTick signals
            woken)
  | act =>
      simp only [react] at reacted
      split at reacted
      case isTrue => cases reacted
      case isFalse free =>
        have free : duty.isWaiting = false := by simpa using free
        obtain ⟨⟨action, loop⟩, taken, performed⟩ :=
          Option.bind_eq_some_iff.mp reacted
        cases action with
        | announce event =>
            obtain ⟨step, asked, rfl⟩ := Option.map_eq_some_iff.mp performed
            exact .announces event loop step free taken asked
        | _ =>
            cases performed
            exact .changes _ loop free taken rfl
  | hub event =>
      simp only [react] at reacted
      split at reacted
      case isTrue permitted =>
        obtain ⟨step, happened, rfl⟩ := Option.map_eq_some_iff.mp reacted
        exact .passes event step permitted happened
      case isFalse => cases reacted
  | write change =>
      cases reacted
      exact .shares change

theorem marks_act (action : ProducerAction) (loop : ProducerLoop)
    (taken : duty.loop.takeAction = some (action, loop)) :
    duty.marks now .act next = [.takes action] := by
  have first := (duty.loop.takeAction_takes loop action taken).1
  simp [marks, first]

/-- What is taken in an event comes from what was still to do, or from the step that
begins in it. -/
theorem account_react (event : DutyEvent) (effect : Effect now duty event next) :
    DutyMark.taken (duty.marks now event next) ++ next.loop.pending =
      duty.loop.pending ++ (DutyMark.plans (duty.marks now event next)).flatten := by
  cases effect with
  | shuts => simp [marks, DutyMark.taken, DutyMark.plans, ProducerLoop.pending,
      ProducerLoop.cancel]
  | wakes clock later preferTick loop free woken =>
      cases woken with
      | enters phase new calm =>
          rcases calm with rfl | rfl <;>
            simp [marks, DutyMark.taken, DutyMark.plans, ProducerLoop.pending, new]
      | steps origin ticks idle due chosen =>
          simp [marks, DutyMark.taken, DutyMark.plans, ProducerLoop.pending, idle,
            Producer.next]
      | exits origin ticks idle cancelled passed =>
          simp [marks, DutyMark.taken, DutyMark.plans, ProducerLoop.pending, idle]
      | rests origin ticks done =>
          simp [marks, DutyMark.taken, DutyMark.plans, ProducerLoop.pending, done]
  | changes action loop free taken silent =>
      rw [duty.marks_act _ now action loop taken,
        (duty.loop.takeAction_takes loop action taken).1]
      simp [DutyMark.taken, DutyMark.plans]
  | announces event loop step free taken reacted =>
      rw [duty.marks_act _ now _ loop taken,
        (duty.loop.takeAction_takes loop _ taken).1]
      simp [DutyMark.taken, DutyMark.plans]
  | passes event step permitted reacted =>
      simp [marks, DutyMark.taken, DutyMark.plans]
  | shares change => simp [marks, DutyMark.taken, DutyMark.plans]

theorem store_react (event : DutyEvent) (effect : Effect now duty event next) :
    next.store = (duty.marks now event next).foldl DutyMark.applyTo duty.store := by
  cases effect with
  | shuts => rfl
  | wakes clock later preferTick loop free woken =>
      simp only [marks]
      split <;> rfl
  | changes action loop free taken silent =>
      rw [duty.marks_act _ now action loop taken]
      rfl
  | announces event loop step free taken reacted =>
      rw [duty.marks_act _ now _ loop taken]
      rfl
  | passes event step permitted reacted => rfl
  | shares change => rfl

theorem announced_react (event : DutyEvent)
    (effect : Effect now duty event next) :
    next.announced.map Prod.snd = duty.announced.map Prod.snd ++
      (DutyMark.taken (duty.marks now event next)).filterMap
        ProducerAction.event? := by
  cases effect with
  | wakes clock later preferTick loop free woken =>
      simp only [marks]
      split <;> simp [DutyMark.taken]
  | changes action loop free taken silent =>
      rw [duty.marks_act _ now action loop taken]
      simp [DutyMark.taken, silent]
  | announces event loop step free taken reacted =>
      rw [duty.marks_act _ now _ loop taken]
      simp [DutyMark.taken, ProducerAction.event?]
  | _ => simp [marks, DutyMark.taken]

theorem cancelled_react (event : DutyEvent) (effect : Effect now duty event next)
    (cancelled : duty.loop.cancelled = true) : next.loop.cancelled = true := by
  cases effect with
  | shuts => rfl
  | wakes clock later preferTick loop free woken => cases woken <;> exact cancelled
  | changes action loop free taken silent =>
      exact (duty.loop.takeAction_takes loop action taken).2.1.trans cancelled
  | announces event loop step free taken reacted =>
      exact (duty.loop.takeAction_takes loop _ taken).2.1.trans cancelled
  | passes event step permitted reacted => exact cancelled
  | shares change => exact cancelled

/-- A loop whose shutdown is there begins a step exactly where a tick is there too
and the loop prefers it. -/
theorem begins_react (event : DutyEvent) (effect : Effect now duty event next)
    (cancelled : duty.loop.cancelled = true) :
    (∃ actions, .begins actions ∈ duty.marks now event next) ↔
      event.prefersTick = true ∧ duty.loop.isDue now = true := by
  cases effect with
  | wakes clock later preferTick loop free woken =>
      cases woken with
      | enters phase new calm =>
          have still := duty.loop.isDue_busy now (by simp [new])
          simp [marks, still]
      | steps origin ticks idle due chosen =>
          have preferred : preferTick = true := by simpa [cancelled] using chosen
          simp [marks, Producer.next, DutyEvent.prefersTick, due, preferred]
      | exits origin ticks idle _ passed =>
          simpa [marks, DutyEvent.prefersTick] using passed
      | rests origin ticks done =>
          have still := duty.loop.isDue_busy now (by simp [done])
          simp [marks, still]
  | changes action loop free taken silent =>
      rw [duty.marks_act _ now action loop taken]
      simp [DutyEvent.prefersTick]
  | announces event loop step free taken reacted =>
      rw [duty.marks_act _ now _ loop taken]
      simp [DutyEvent.prefersTick]
  | _ => simp [marks, DutyEvent.prefersTick]

/-- Once a loop is over, nothing more is taken and no step begins. -/
theorem over_react (event : DutyEvent) (effect : Effect now duty event next)
    (finished : duty.loop.isFinished = true) :
    next.loop.isFinished = true ∧
      DutyMark.taken (duty.marks now event next) = [] ∧
      DutyMark.plans (duty.marks now event next) = [] := by
  have unended : duty.loop.isFinished ≠ false := by simp [finished]
  cases effect with
  | shuts => exact ⟨finished, rfl, rfl⟩
  | wakes clock later preferTick loop free woken =>
      exact absurd (duty.loop.woken_unfinished loop now clock later duty.store
        preferTick woken) unended
  | changes action loop free taken silent =>
      exact absurd (duty.loop.takeAction_takes loop action taken).2.2.1 unended
  | announces event loop step free taken reacted =>
      exact absurd (duty.loop.takeAction_takes loop _ taken).2.2.1 unended
  | passes event step permitted reacted => exact ⟨finished, rfl, rfl⟩
  | shares change => exact ⟨finished, rfl, rfl⟩

/-! ## Runs -/

section

variable (final : Duty) (events : List (Instant × DutyEvent))

theorem run_append (middle : Duty) (more : List (Instant × DutyEvent))
    (worked : duty.run events = some middle) (onward : middle.run more = some final) :
    duty.run (events ++ more) = some final := by
  induction events generalizing duty with
  | nil =>
      cases worked
      exact onward
  | cons entry rest ih =>
      obtain ⟨now, event⟩ := entry
      obtain ⟨next, reacted, later⟩ := Option.bind_eq_some_iff.mp worked
      exact Option.bind_eq_some_iff.mpr ⟨next, reacted, ih next later⟩

/-- An invariant between a duty and what has been observed of it, kept by every
event, relates the last duty of a run to all that was observed along it. -/
theorem observe_induction {α : Type}
    (view : Duty → Instant → DutyEvent → Duty → List α)
    {motive : Duty → List α → Prop}
    (preserved : ∀ duty now event next past, motive duty past →
      Effect now duty event next → motive next (past ++ view duty now event next))
    {duty final : Duty} {events : List (Instant × DutyEvent)}
    (start : motive duty []) (worked : duty.run events = some final) :
    motive final (duty.observe view events) := by
  have onward : ∀ past, motive duty past →
      motive final (past ++ duty.observe view events) := by
    clear start
    induction events generalizing duty with
    | nil =>
        intro past held
        cases worked
        simpa [observe] using held
    | cons entry rest ih =>
        intro past held
        obtain ⟨now, event⟩ := entry
        obtain ⟨next, reacted, later⟩ := Option.bind_eq_some_iff.mp worked
        have kept := preserved duty now event next past held
          (duty.react_effect next now event reacted)
        simpa [observe, reacted, List.append_assoc] using ih later _ kept
  exact onward [] start

theorem account_run (worked : duty.run events = some final) :
    DutyMark.taken (duty.record events) ++ final.loop.pending =
      duty.loop.pending ++ (DutyMark.plans (duty.record events)).flatten := by
  refine observe_induction marks (motive := fun next past =>
    DutyMark.taken past ++ next.loop.pending =
      duty.loop.pending ++ (DutyMark.plans past).flatten) ?_
    (by simp [DutyMark.taken, DutyMark.plans]) worked
  intro before now event next past account effect
  calc DutyMark.taken (past ++ before.marks now event next) ++ next.loop.pending
      = DutyMark.taken past ++ (DutyMark.taken (before.marks now event next) ++
          next.loop.pending) := by rw [DutyMark.taken_append, List.append_assoc]
    _ = (DutyMark.taken past ++ before.loop.pending) ++
          (DutyMark.plans (before.marks now event next)).flatten := by
        rw [before.account_react next now event effect, List.append_assoc]
    _ = duty.loop.pending ++
          (DutyMark.plans (past ++ before.marks now event next)).flatten := by
        rw [account, DutyMark.plans_append, List.flatten_append, List.append_assoc]

theorem store_run (worked : duty.run events = some final) :
    final.store = (duty.record events).foldl DutyMark.applyTo duty.store := by
  refine observe_induction marks (motive := fun next past =>
    next.store = past.foldl DutyMark.applyTo duty.store) ?_ rfl worked
  intro before now event next past held effect
  rw [List.foldl_append, ← held]
  exact before.store_react next now event effect

theorem announced_run (worked : duty.run events = some final) :
    final.announced.map Prod.snd = duty.announced.map Prod.snd ++
      (DutyMark.taken (duty.record events)).filterMap ProducerAction.event? := by
  refine observe_induction marks (motive := fun next past =>
    next.announced.map Prod.snd = duty.announced.map Prod.snd ++
      (DutyMark.taken past).filterMap ProducerAction.event?) ?_
    (by simp [DutyMark.taken]) worked
  intro before now event next past told effect
  rw [before.announced_react next now event effect, told, DutyMark.taken_append,
    List.filterMap_append, List.append_assoc]

theorem cancelled_run (cancelled : duty.loop.cancelled = true)
    (worked : duty.run events = some final) : final.loop.cancelled = true :=
  observe_induction marks (motive := fun next _ => next.loop.cancelled = true)
    (fun before now event next _ kept effect =>
      before.cancelled_react next now event effect kept) cancelled worked

theorem over_run (finished : duty.loop.isFinished = true)
    (worked : duty.run events = some final) :
    DutyMark.taken (duty.record events) = [] ∧
      DutyMark.plans (duty.record events) = [] := by
  have kept : final.loop.isFinished = true ∧
      DutyMark.taken (duty.record events) = [] ∧
        DutyMark.plans (duty.record events) = [] := observe_induction marks
    (motive := fun next past => next.loop.isFinished = true ∧
      DutyMark.taken past = [] ∧ DutyMark.plans past = []) ?_
    ⟨finished, rfl, rfl⟩ worked
  · exact kept.2
  · rintro before now event next past ⟨ended, noTake, noStep⟩ effect
    obtain ⟨onward, takes, steps⟩ := before.over_react next now event effect ended
    exact ⟨onward, by rw [DutyMark.taken_append, noTake, takes]; rfl,
      by rw [DutyMark.plans_append, noStep, steps]; rfl⟩

/-- If a loop whose shutdown is there never prefers a tick, no step begins. -/
theorem yields_run (cancelled : duty.loop.cancelled = true)
    (yields : ∀ entry ∈ events, entry.2.prefersTick = false)
    (worked : duty.run events = some final) :
    DutyMark.plans (duty.record events) = [] := by
  induction events generalizing duty with
  | nil => rfl
  | cons entry rest ih =>
      obtain ⟨now, event⟩ := entry
      obtain ⟨next, reacted, onward⟩ := Option.bind_eq_some_iff.mp worked
      have effect := duty.react_effect next now event reacted
      have none_begins : DutyMark.plans (duty.marks now event next) = [] := by
        rw [DutyMark.plans, List.filterMap_eq_nil_iff]
        intro mark member
        cases mark with
        | begins actions =>
            have preferred := ((duty.begins_react next now event effect
              cancelled).mp ⟨actions, member⟩).1
            rw [yields (now, event) List.mem_cons_self] at preferred
            cases preferred
        | _ => rfl
      have later := ih next
        (duty.cancelled_react next now event effect cancelled)
        (fun other member => yields other (List.mem_cons_of_mem _ member)) onward
      simp only [record] at later ⊢
      simp only [observe, reacted, DutyMark.plans_append, none_begins, later,
        List.append_nil]

end

/-! ## Announcements -/

/-- What the hub and its journal say of the announcements so far. -/
structure Kept (duty : Duty) (journal : List Mark) : Prop where
  consistent : duty.hub.Consistent
  told : duty.hub.Told journal
  named : ∀ entry ∈ duty.announced, entry.1 < duty.hub.nextOperation
  requested : ∀ entry ∈ duty.announced,
    .requested entry.1 (Request.publish entry.2).operation ∈ journal
  /-- No loop of the hub is inside of an announcement. -/
  unticked : ∀ entry ∈ duty.announced, entry.1 ∉ duty.hub.scheduledTicks
  undropped : ∀ entry ∈ duty.announced, .dropped entry.1 ∉ journal
  /-- The producer waits for each announcement before it goes on. -/
  awaited : ∀ entry ∈ duty.announced, entry.1 ∈ duty.hub.inFlight →
    duty.awaited = some entry.1
  /-- It is over only after all of them. -/
  outlasts : duty.loop.isFinished = true →
    ∀ entry ∈ duty.announced, entry.1 ∉ duty.hub.inFlight

section

variable (journal : List Mark)

/-- While the producer does not wait, none of its announcements is in flight. -/
theorem kept_free (kept : duty.Kept journal) (free : duty.isWaiting = false)
    (entry : OperationId × AlarmEvent) (member : entry ∈ duty.announced) :
    entry.1 ∉ duty.hub.inFlight := by
  intro current
  have waiting : duty.isWaiting = true := by
    simp [isWaiting, kept.awaited entry member current, current]
  rw [free] at waiting
  cases waiting

/-- Between two announcements the loop may go on as it likes. -/
theorem kept_onward (kept : duty.Kept journal) (free : duty.isWaiting = false)
    (store : AlarmStore) (loop : ProducerLoop) :
    { duty with store := store, loop := loop }.Kept journal :=
  { kept with
    outlasts := fun _ entry member => duty.kept_free journal kept free entry member }

/-- Whatever happens to the hub, announcements that are over stay so, and those that
are not are not dropped. -/
theorem kept_passes (kept : duty.Kept journal) (event : HubEvent)
    (step : Progress) (permitted : duty.permits event = true)
    (reacted : duty.hub.react now event = some step) :
    { duty with hub := step.hub }.Kept
      (journal ++ duty.hub.marks event step) := by
  have flow := duty.hub.react_flow now event step reacted
  have later := (duty.hub.flow_names step.hub flow).1
  have before : ∀ entry ∈ duty.announced, entry.1 ∈ step.hub.inFlight →
      entry.1 ∈ duty.hub.inFlight := fun entry member =>
    duty.hub.flow_inFlight step.hub flow entry.1 (kept.named entry member)
  constructor
  case consistent =>
    exact duty.hub.consistent_turn event step kept.consistent
      (duty.hub.react_turn now event step reacted)
  case told =>
    exact duty.hub.told_react now event step journal kept.told kept.consistent
      reacted
  case named =>
    exact fun entry member => Nat.lt_of_lt_of_le (kept.named entry member) later
  case requested =>
    exact fun entry member => List.mem_append_left _ (kept.requested entry member)
  case unticked =>
    intro entry member ticked
    have older := kept.unticked entry member
    cases flow with
    | ebbs gone _ _ ticks => exact older ((ticks entry.1).mp ticked).1
    | grows _ _ ticks => exact older (ticks ▸ ticked)
    | ticks loop _ _ _ ticks =>
        rcases (ticks entry.1).mp ticked with old | fresh
        · exact older old
        · exact absurd (kept.named entry member) (by rw [fresh]; exact Nat.lt_irrefl _)
  case undropped =>
    intro entry member dropped
    rcases List.mem_append.mp dropped with old | new
    · exact kept.undropped entry member old
    · have current := ((duty.hub.mem_dropped event step entry.1).mp new).1
      rcases duty.hub.dropped_drops now event step entry.1 reacted new with
        rfl | ⟨_, ticked⟩
      · simp [permits, kept.awaited entry member current] at permitted
      · exact kept.unticked entry member ticked
  case awaited =>
    exact fun entry member current =>
      kept.awaited entry member (before entry member current)
  case outlasts =>
    exact fun finished entry member current =>
      kept.outlasts finished entry member (before entry member current)

theorem kept_announces (kept : duty.Kept journal) (event : AlarmEvent)
    (loop : ProducerLoop) (step : Progress) (free : duty.isWaiting = false)
    (taken : duty.loop.takeAction = some (.announce event, loop))
    (reacted : duty.hub.react now (.ask (.publish event)) = some step) :
    { duty with
      hub := step.hub
      loop := loop
      awaited := some duty.hub.nextOperation
      announced := duty.announced ++ [(duty.hub.nextOperation, event)] }.Kept
      (journal ++ duty.hub.marks (.ask (.publish event)) step) := by
  have passed := duty.kept_passes now journal kept _ step rfl reacted
  have begun := duty.hub.ask_react now (.publish event) step reacted
  have gone : ∀ entry ∈ duty.announced, entry.1 ∉ step.hub.inFlight :=
    fun entry member current => duty.kept_free journal kept free entry member
      (duty.hub.flow_inFlight step.hub (duty.hub.react_flow now _ step reacted)
        entry.1 (kept.named entry member) current)
  have unborn : duty.hub.nextOperation ∉ duty.hub.inFlight :=
    fun current => Nat.lt_irrefl _ (kept.consistent.named _ current)
  constructor
  case consistent => exact passed.consistent
  case told => exact passed.told
  case outlasts =>
    intro finished
    have unfinished := (duty.loop.takeAction_takes loop _ taken).2.2.2
    rw [unfinished] at finished
    cases finished
  all_goals
    intro entry member
    rw [List.mem_append, List.mem_singleton] at member
    rcases member with old | rfl
  case named.inl => exact passed.named entry old
  case named.inr =>
    rw [begun]
    exact Nat.lt_succ_self _
  case requested.inl => exact passed.requested entry old
  case requested.inr =>
    apply List.mem_append_right
    apply (duty.hub.mem_marks _ step _).mpr
    refine Or.inr (Or.inr (Or.inl ⟨_, _, ?_, Nat.le_refl _, rfl⟩))
    rw [begun]
    exact List.mem_append_right _ (List.mem_singleton.mpr rfl)
  case unticked.inl => exact passed.unticked entry old
  case unticked.inr =>
    rw [begun]
    exact fun ticked => unborn (kept.consistent.ticking _ ticked)
  case undropped.inl => exact passed.undropped entry old
  case undropped.inr =>
    intro dropped
    rcases List.mem_append.mp dropped with old | new
    · exact Nat.lt_irrefl _ (kept.told.isOver _ (Or.inl old)).2
    · exact unborn ((duty.hub.mem_dropped _ step _).mp new).1
  case awaited.inl => exact fun current => absurd current (gone entry old)
  case awaited.inr => exact fun _ => rfl

end

theorem kept_opened (hub : Hub) (store : AlarmStore) (producer : Producer)
    (interval : Duration) (journal : List Mark) (consistent : hub.Consistent)
    (told : hub.Told journal) :
    (opened hub store producer interval).Kept journal where
  consistent := consistent
  told := told
  named := by intro entry member; cases member
  requested := by intro entry member; cases member
  unticked := by intro entry member; cases member
  undropped := by intro entry member; cases member
  awaited := by intro entry member; cases member
  outlasts := by intro _ entry member; cases member

/-- One event of a duty is no event of its hub, or one that the journal of the hub
takes in. -/
theorem kept_react (first : Hub) (past : Timeline) (event : DutyEvent)
    (effect : Effect now duty event next)
    (reached : first.run past = some duty.hub)
    (kept : duty.Kept (first.journal past)) :
    first.run (past ++ duty.hubEvents now event next) = some next.hub ∧
      next.Kept (first.journal (past ++ duty.hubEvents now event next)) := by
  have extend : ∀ happening step, duty.hub.react now happening = some step →
      first.run (past ++ [(now, happening)]) = some step.hub ∧
        first.journal (past ++ [(now, happening)]) =
          first.journal past ++ duty.hub.marks happening step := by
    intro happening step reacted
    exact ⟨(Hub.run_append _ _ _ _).mpr ⟨duty.hub, reached,
        (Hub.run_singleton _ _ _ _).mpr ⟨step, reacted, rfl⟩⟩,
      Hub.observe_snoc _ first duty.hub past now happening step reached reacted⟩
  cases effect with
  | shuts =>
      rw [hubEvents, List.append_nil]
      exact ⟨reached, { kept with outlasts := kept.outlasts }⟩
  | wakes clock later preferTick loop free woken =>
      rw [hubEvents, List.append_nil]
      exact ⟨reached, duty.kept_onward _ kept free duty.store loop⟩
  | changes action loop free taken silent =>
      have nothing : duty.hubEvents now .act { duty with
          store := action.applyTo duty.store, loop := loop } = [] := by
        simp [hubEvents, (duty.loop.takeAction_takes loop action taken).1, silent]
      rw [nothing, List.append_nil]
      exact ⟨reached, duty.kept_onward _ kept free _ loop⟩
  | announces event loop step free taken reacted =>
      obtain ⟨onward, grown⟩ := extend (.ask (.publish event)) step reacted
      simp only [hubEvents, (duty.loop.takeAction_takes loop _ taken).1,
        ProducerAction.event?, List.take_succ_cons, List.take_zero,
        List.filterMap_cons, List.filterMap_nil, Option.map_some]
      rw [grown]
      exact ⟨onward, duty.kept_announces now _ kept event loop step free taken
        reacted⟩
  | passes event step permitted reacted =>
      obtain ⟨onward, grown⟩ := extend event step reacted
      simp only [hubEvents]
      rw [grown]
      exact ⟨onward, duty.kept_passes now _ kept event step permitted reacted⟩
  | shares change =>
      rw [hubEvents, List.append_nil]
      exact ⟨reached, { kept with outlasts := kept.outlasts }⟩

theorem kept_run (config : HubConfig) (past : Timeline) (hub : Hub)
    (store : AlarmStore) (producer : Producer) (interval : Duration)
    (events : List (Instant × DutyEvent)) (final : Duty)
    (reached : (Hub.create config).run past = some hub)
    (worked : (opened hub store producer interval).run events = some final) :
    let timeline := past ++ (opened hub store producer interval).timeline events
    (Hub.create config).run timeline = some final.hub ∧
      final.Kept ((Hub.create config).journal timeline) := by
  obtain ⟨consistent, told⟩ := (Hub.create config).told_run hub past []
    (Hub.consistent_create config) (Hub.told_create config) reached
  rw [List.nil_append] at told
  refine observe_induction hubEvents (motive := fun duty seen =>
    (Hub.create config).run (past ++ seen) = some duty.hub ∧
      duty.Kept ((Hub.create config).journal (past ++ seen))) ?_ ?_ worked
  · rintro duty now event next seen ⟨before, kept⟩ effect
    rw [← List.append_assoc]
    exact duty.kept_react next now (Hub.create config) (past ++ seen) event effect
      before kept
  · rw [List.append_nil]
    exact ⟨reached, kept_opened hub store producer interval _ consistent told⟩

/-- An announcement that is over has been fanned out to everybody. -/
theorem kept_fannedOut (config : HubConfig) (timeline : Timeline)
    (reached : (Hub.create config).run timeline = some duty.hub)
    (kept : duty.Kept ((Hub.create config).journal timeline))
    (entry : OperationId × AlarmEvent) (member : entry ∈ duty.announced)
    (gone : entry.1 ∉ duty.hub.inFlight) :
    Mark.FannedOut ((Hub.create config).journal timeline) entry.1 entry.2 := by
  have settled := Hub.settled_run config timeline duty.hub reached
  have delivers := Hub.delivers_run config timeline duty.hub reached
  have requested := kept.requested entry member
  obtain ⟨reply, returned⟩ := (settled.settled entry.1 (kept.named entry member)
    ((duty.hub.absent_iff entry.1).mpr gone)).resolve_left
      (kept.undropped entry member)
  obtain ⟨report, reported⟩ :=
    settled.reported entry.1 _ _ _ reply requested returned
  obtain ⟨listeners, delivery, admitted, calls, ended, attempted, _⟩ :=
    delivers.exact entry.1 reply report returned reported
  refine ⟨listeners, reply, report, returned, reported, admitted, ?_, ended,
    attempted⟩
  rw [calls]
  apply List.map_congr_left
  intro listener present
  have handed : (listener, delivery) ∈
      Mark.calls entry.1 ((Hub.create config).journal timeline) := by
    rw [calls]
    exact List.mem_map_of_mem present
  rw [← settled.handed entry.1 _ _ _ requested _ handed]

/-! ## Winding down -/

/-- What a producer's loop does between `middle`, where its shutdown is there, and
`final`, which it reaches by some events; `journal` is that of its hub until then. -/
structure WindsDown (middle : Duty) (events : List (Instant × DutyEvent))
    (final : Duty) (journal : List Mark) : Prop where
  /-- A further step begins exactly where a tick is there as well as the shutdown
  and the loop prefers the tick. -/
  begins : ∀ now event next, final.react now event = some next →
    ((∃ actions, .begins actions ∈ final.marks now event next) ↔
      event.prefersTick = true ∧ final.loop.isDue now = true)
  /-- If the loop prefers its shutdown, no further step begins. -/
  yields : (∀ entry ∈ events, entry.2.prefersTick = false) →
    DutyMark.plans (middle.record events) = []
  /-- It takes what the step under way has still to do, and then what further steps
  plan, each to its end before the next. -/
  account : DutyMark.taken (middle.record events) ++ final.loop.pending =
    middle.loop.pending ++ (DutyMark.plans (middle.record events)).flatten
  /-- What it takes is written to the store between what others write. -/
  writes : final.store =
    (middle.record events).foldl DutyMark.applyTo middle.store
  /-- What it takes is announced, in order. -/
  announces : final.announced.map Prod.snd =
    middle.announced.map Prod.snd ++
      (DutyMark.taken (middle.record events)).filterMap ProducerAction.event?
  /-- Where it need not wait for listeners, it can go on. -/
  goesOn : final.loop.isFinished = false → final.isWaiting = false →
    final.hub.closed = false → ∀ now clock later,
      (final.react now .act).isSome = true ∨
        (final.react now (.wake clock later false)).isSome = true
  /-- When it is over, nothing that it began is left to do, and every listener has
  been told of everything that it announced. -/
  returns : final.loop.isFinished = true →
    final.loop.pending = [] ∧
      ∀ entry ∈ final.announced, Mark.FannedOut journal entry.1 entry.2
  /-- Once it is over, it stays so. -/
  rests : middle.loop.isFinished = true →
    DutyMark.taken (middle.record events) = [] ∧
      DutyMark.plans (middle.record events) = []

theorem goes_on (cancelled : duty.loop.cancelled = true)
    (unfinished : duty.loop.isFinished = false) (free : duty.isWaiting = false)
    (owned : duty.hub.closed = false) (clock later : Timestamp) :
    (duty.react now .act).isSome = true ∨
      (duty.react now (.wake clock later false)).isSome = true := by
  rcases duty.loop.goes_on now clock later duty.store cancelled unfinished with
    takes | wakes
  · left
    obtain ⟨⟨action, loop⟩, taken⟩ := Option.isSome_iff_exists.mp takes
    cases action <;>
      simp [react, free, taken, perform, Hub.react, owned]
  · right
    simpa [react, free] using wakes

/-- A shutdown lets the step under way come to its end, with all that it writes and
announces, and after it no step begins but for ticks that are overdue and that the
loop prefers to its shutdown. -/
theorem shutdown_ends_steps (config : HubConfig) (past : Timeline) (hub : Hub)
    (store : AlarmStore) (producer : Producer) (interval : Duration)
    (before after : List (Instant × DutyEvent)) (middle final : Duty)
    (reached : (Hub.create config).run past = some hub)
    (worked : (opened hub store producer interval).run before = some middle)
    (cancelled : middle.loop.cancelled = true)
    (onward : middle.run after = some final) :
    middle.WindsDown after final ((Hub.create config).journal
      (past ++ (opened hub store producer interval).timeline (before ++ after))) := by
  have whole := run_append _ final before middle after worked onward
  obtain ⟨hubRun, kept⟩ := kept_run config past hub store producer interval
    (before ++ after) final reached whole
  have still := middle.cancelled_run final after cancelled onward
  constructor
  case begins =>
    exact fun now event next reacted => final.begins_react next now event
      (final.react_effect next now event reacted) still
  case yields =>
    exact fun yields => middle.yields_run final after cancelled yields onward
  case account => exact middle.account_run final after onward
  case writes => exact middle.store_run final after onward
  case announces => exact middle.announced_run final after onward
  case goesOn =>
    exact fun unfinished free owned now clock later =>
      final.goes_on now still unfinished free owned clock later
  case returns =>
    intro finished
    refine ⟨?_, ?_⟩
    · cases phase : final.loop.phase with
      | stepping origin ticks actions =>
          simp [ProducerLoop.isFinished, phase] at finished
      | _ => simp [ProducerLoop.pending, phase]
    · intro entry member
      exact final.kept_fannedOut config _ hubRun kept entry member
        (kept.outlasts finished entry member)
  case rests => exact fun finished => middle.over_run final after finished onward

/-- A hub with one listener. -/
def slowTimeline : Timeline :=
  [(⟨0⟩, .ask (.subscribe ⟨1, "slow"⟩)), (⟨0⟩, .advance 0)]

/-- A producer that takes a step every ten milliseconds and is to acknowledge the
only alarm of its pool. -/
def slowDuty (hub : Hub) : Duty :=
  opened hub ⟨[Producer.newborn 7 1]⟩ ⟨1, 3, Nat.one_pos⟩ (.ofMillis 10)

/-- Its shutdown is cancelled while the listener is busy with the first of the two
notifications of a step. -/
def interruptedEvents : List (Instant × DutyEvent) :=
  [(.ofMillis 0, .wake 70 71 false), (.ofMillis 0, .wake 70 71 false),
    (.ofMillis 0, .act), (.ofMillis 0, .act), (.ofMillis 0, .hub (.advance 1)),
    (.ofMillis 20, .shutdown)]

/-- The rest of that step. -/
def completedEvents : List (Instant × DutyEvent) :=
  [(.ofMillis 40, .hub (.answerCall 1 .accepted)),
    (.ofMillis 40, .hub (.advance 1)), (.ofMillis 40, .act),
    (.ofMillis 40, .hub (.advance 2)),
    (.ofMillis 80, .hub (.answerCall 2 (.panicked .other))),
    (.ofMillis 80, .hub (.advance 2)), (.ofMillis 80, .act),
    (.ofMillis 80, .wake 150 151 false)]

/-- The loop then prefers its shutdown. -/
def exitedEvents : List (Instant × DutyEvent) :=
  completedEvents ++ [(.ofMillis 80, .wake 150 151 false)]

theorem shutdown_ends_steps_interrupted :
    ∃ hub, (Hub.create .standard).run slowTimeline = some hub ∧
      ∃ middle final, (slowDuty hub).run interruptedEvents = some middle ∧
        middle.loop.cancelled = true ∧ middle.loop.pending.length = 2 ∧
        middle.run exitedEvents = some final ∧ final.loop.isFinished = true ∧
        (final.announced.map fun entry => entry.2.label) =
          ["acknowledged", "sticky_memo_updated"] ∧
        middle.WindsDown exitedEvents final
          ((Hub.create .standard).journal (slowTimeline ++
            (slowDuty hub).timeline (interruptedEvents ++ exitedEvents))) :=
  ⟨_, rfl, _, _, rfl, rfl, rfl, rfl, rfl, rfl,
    shutdown_ends_steps .standard slowTimeline _ _ _ _ interruptedEvents _ _ _
      rfl rfl rfl rfl⟩

/-- Eight ticks are overdue after that step.  The loop may prefer one of them to its
shutdown: then it begins another step and writes to the store. -/
theorem overdue_tick_outlives_shutdown :
    ∃ hub, (Hub.create .standard).run slowTimeline = some hub ∧
      ∃ middle completed final,
        (slowDuty hub).run interruptedEvents = some middle ∧
        middle.loop.cancelled = true ∧
        middle.run completedEvents = some completed ∧
        completed.loop.pending = [] ∧
        completed.run [(.ofMillis 80, .wake 150 151 true), (.ofMillis 80, .act)] =
          some final ∧
        final.loop.producer.steps = completed.loop.producer.steps + 1 ∧
        ((completed.store.get? 1).map Alarm.ackUser,
          (final.store.get? 1).map Alarm.ackUser) =
            (some (some Producer.user), some none) :=
  ⟨_, rfl, _, _, _, rfl, rfl, rfl, rfl, rfl, rfl, rfl⟩

end Duty
end AlarmRelay
