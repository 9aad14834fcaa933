import AlarmRelay.Proofs.Hub.Consistent
import AlarmRelay.Proofs.Hub.Marks

/-!
# What one event does to one operation

Seen from one operation, an event passes it by, begins it, moves it on, lets it
answer or drops it.  `Fate` says so together with what the journal records of its
listener calls.
-/

set_option autoImplicit false

namespace AlarmRelay.Hub

/-- How an operation moves on without answering, and the outcome of a call that
it hears of. -/
inductive Motion (hub : Hub) (id : OperationId) :
    Operation → Operation → List CallOutcome → Prop where
  | scans (somebody : hub.registry.listeners ≠ []) :
      Motion hub id (.tick .checking) (.tick .scanning) []
  | fetches (alarms : List Alarm) : Motion hub id (.tick .scanning)
      (.tick (.delivering alarms .awaitingLock)) []
  | walks (operation next : Operation) (delivery : Delivery)
      (held : hub.registry.lock.holdsShared id = true)
      (before : operation.fanOut? = some (delivery, .awaitingLock))
      (after : next.fanOut? =
        some (delivery, .calling hub.registry.listeners .empty)) :
      Motion hub id operation next []
  | hears (operation next : Operation) (delivery : Delivery)
      (listener : Listener) (rest : List Listener) (report : DispatchReport)
      (outcome : CallOutcome)
      (before : operation.fanOut? =
        some (delivery, .calling (listener :: rest) report))
      (after : next.fanOut? =
        some (delivery, .calling rest (report.record outcome))) :
      Motion hub id operation next [outcome]

/-- What an event does to the operation `id`, and which of its listener calls
begin and end. -/
inductive Fate (hub : Hub) (event : HubEvent) (step : Progress)
    (id : OperationId) : Prop where
  /-- It is passed by, or there is none of that name. -/
  | stays (same : step.hub.operation? id = hub.operation? id)
      (began : Mark.calls id (hub.marks event step) = [])
      (ended : Mark.endings id (hub.marks event step) = [])
  | begins (operation : Operation) (named : id = hub.nextOperation)
      (calm : operation.Calm) (before : hub.operation? id = none)
      (after : step.hub.operation? id = some operation)
      (began : Mark.calls id (hub.marks event step) = [])
      (ended : Mark.endings id (hub.marks event step) = [])
  | moves (operation next : Operation) (heard : List CallOutcome)
      (motion : Motion hub id operation next heard)
      (before : hub.operation? id = some operation)
      (after : step.hub.operation? id = some next)
      (began : Mark.calls id (hub.marks event step) =
        (step.hub.call? id).toList)
      (ended : Mark.endedCalls id (hub.marks event step) =
        (hub.call? id).toList)
      (outcomes : Mark.outcomes id (hub.marks event step) = heard)
  | answers (operation : Operation) (registry : Registry) (reply : Reply)
      (answer : Answer hub id operation registry reply)
      (before : hub.operation? id = some operation)
      (after : step.hub.operation? id = none)
      (listeners : step.hub.registry.listeners = registry.listeners)
      (replied : step.reply = some reply)
      (began : Mark.calls id (hub.marks event step) = [])
      (ended : Mark.endings id (hub.marks event step) = [])
  | drops (operation : Operation)
      (before : hub.operation? id = some operation)
      (after : step.hub.operation? id = none) (silent : step.reply = none)
      (began : Mark.calls id (hub.marks event step) = [])
      (ended : Mark.endings id (hub.marks event step) = [])

/-- The journal records no call of an operation that an event does not address. -/
theorem marks_unaddressed (hub : Hub) (event : HubEvent) (step : Progress)
    (id : OperationId) (unaddressed : hub.subject? event ≠ some id)
    (unheard : hub.endMarks event = []) :
    Mark.calls id (hub.marks event step) = [] ∧
      Mark.endings id (hub.marks event step) = [] := by
  rw [marks_calls, marks_endings, if_neg unaddressed, unheard]
  exact ⟨rfl, rfl⟩

theorem marks_gone (hub : Hub) (event : HubEvent) (step : Progress)
    (id : OperationId) (gone : step.hub.operation? id = none)
    (unheard : hub.endMarks event = []) :
    Mark.calls id (hub.marks event step) = [] ∧
      Mark.endings id (hub.marks event step) = [] := by
  rw [marks_calls, marks_endings, unheard, call?_of_absent _ id gone]
  refine ⟨?_, rfl⟩
  split <;> rfl

theorem fate_begin (hub : Hub) (event : HubEvent) (step : Progress)
    (id : OperationId) (operation : Operation) (consistent : hub.Consistent)
    (calm : operation.Calm)
    (operations : step.hub.operations = (hub.begin operation).1.operations)
    (idle : hub.subject? event = none) (unheard : hub.endMarks event = []) :
    Fate hub event step id := by
  obtain ⟨began, ended⟩ := hub.marks_unaddressed event step id
    (by simp [idle]) unheard
  have after := hub.operation?_begun step.hub id operation operations
  by_cases named : id = hub.nextOperation
  · have before := hub.absent_of_unborn id consistent (Nat.le_of_eq named.symm)
    rw [before, Option.none_or, if_pos named] at after
    exact .begins operation named calm before after began ended
  · rw [if_neg named, Option.or_none] at after
    exact .stays after began ended

/-- One operation moves on, all others are passed by. -/
theorem fate_update (hub : Hub) (event : HubEvent) (step : Progress)
    (id other : OperationId) (registry : Registry)
    (operation next : Operation) (heard : List CallOutcome)
    (motion : Motion hub other operation next heard)
    (found : hub.operation? other = some operation)
    (same : step.hub.Alike
      ({ hub with registry := registry }.putOperation other next))
    (began : Mark.calls id (hub.marks event step) =
      if other = id then (step.hub.call? id).toList else [])
    (ended : Mark.endings id (hub.endMarks event) =
      if other = id then (hub.call? id).toList.zip heard else [])
    (length : (hub.call? other).toList.length = heard.length) :
    Fate hub event step id := by
  have after := hub.operation?_moved step.hub registry other id operation next found
    same
  rw [← marks_endings] at ended
  by_cases here : other = id
  · subst here
    rw [if_pos rfl] at after began ended
    refine .moves operation next heard motion found after began ?_ ?_
    · rw [Mark.endedCalls, ended, List.map_fst_zip (Nat.le_of_eq length)]
    · rw [Mark.outcomes, ended, List.map_snd_zip (Nat.le_of_eq length.symm)]
  · rw [if_neg here] at began ended
    rw [if_neg (fun same => here same.symm)] at after
    exact .stays after began ended

/-- One operation is gone, all others are passed by. -/
theorem fate_forget (hub : Hub) (event : HubEvent) (step : Progress)
    (id other : OperationId) (registry : Registry)
    (same : step.hub.Alike ({ hub with registry := registry }.forget other))
    (addressed : hub.subject? event = some other ∨ hub.subject? event = none)
    (unheard : hub.endMarks event = [])
    (gone : id = other → step.hub.operation? id = none →
      Mark.calls id (hub.marks event step) = [] →
        Mark.endings id (hub.marks event step) = [] →
          Fate hub event step id) :
    Fate hub event step id := by
  have after := hub.operation?_left step.hub registry other id same
  by_cases here : id = other
  · rw [if_pos here] at after
    obtain ⟨began, ended⟩ := hub.marks_gone event step id after unheard
    exact gone here after began ended
  · rw [if_neg here] at after
    obtain ⟨began, ended⟩ := hub.marks_unaddressed event step id (by
      rcases addressed with subject | idle
      · simpa [subject] using fun same => here same.symm
      · simp [idle]) unheard
    exact .stays after began ended

/-- A driven operation hears of no outcome. -/
theorem fate_driven (hub : Hub) (event : HubEvent) (step : Progress)
    (id other : OperationId) (registry : Registry)
    (operation next : Operation) (drives : hub.Drives event other)
    (motion : Motion hub other operation next [])
    (found : hub.operation? other = some operation)
    (calm : hub.call? other = none)
    (same : step.hub.Alike
      ({ hub with registry := registry }.putOperation other next)) :
    Fate hub event step id := by
  obtain ⟨subject, unheard⟩ := hub.drives_subject event other drives
  apply hub.fate_update event step id other registry operation next [] motion
    found same
  · rw [marks_calls, subject]
    simp only [Option.some.injEq]
  · rw [unheard]
    simp [Mark.endings]
  · rw [calm]
    rfl

/-- An operation that is not walking is inside of no listener call. -/
theorem call?_of_calm (hub : Hub) (id : OperationId) (operation : Operation)
    (found : hub.operation? id = some operation) (calm : operation.Calm) :
    hub.call? id = none := by
  cases inside : hub.call? id with
  | none => rfl
  | some call =>
      obtain ⟨listener, delivery⟩ := call
      obtain ⟨other, rest, report, present, walks⟩ :=
        (hub.call?_fanOut id listener delivery).mp inside
      rw [found] at present
      cases present
      exact absurd walks (calm delivery _ report)

/-- What every event does to every operation. -/
theorem turn_fate (hub : Hub) (event : HubEvent) (step : Progress)
    (id : OperationId) (consistent : hub.Consistent)
    (turn : Turn hub step event) : Fate hub event step id := by
  cases turn with
  | rests _ same idle unheard =>
      obtain ⟨began, ended⟩ := hub.marks_unaddressed event step id
        (by simp [idle]) unheard
      exact .stays (alike_operation? _ _ same id) began ended
  | asks request same silent =>
      exact hub.fate_begin _ step id request.operation consistent
        (calm_request request) same.operations rfl rfl
  | stops loop owned same silent =>
      exact hub.fate_begin _ step id (.awaitExit loop) consistent
        (by intro _ _ _ walks; cases walks) same.operations rfl rfl
  | ticks loop first last live registry operations nextOperation before after
      idle silent =>
      exact hub.fate_begin _ step id (.tick .checking) consistent
        (by intro _ _ _ walks; cases walks) operations idle rfl
  | answers _ other operation registry reply drives found answer same replied =>
      obtain ⟨subject, unheard⟩ := hub.drives_subject event other drives
      apply hub.fate_forget event step id other registry same (Or.inl subject)
        unheard
      intro here after began ended
      subst here
      have listeners : step.hub.registry.listeners = registry.listeners := by
        rw [same.registry]
        rfl
      exact .answers operation registry reply answer found after listeners
        replied began ended
  | fails other outcome message found same replied =>
      apply hub.fate_forget _ step id other hub.registry same (Or.inr rfl) rfl
      intro here after began ended
      subst here
      have listeners : step.hub.registry.listeners =
          hub.registry.listeners := by
        rw [same.registry]
        rfl
      exact .answers _ hub.registry _ (.fails message) found after listeners
        replied began ended
  | scans _ other drives found held somebody same silent =>
      have calm := hub.call?_of_calm other _ found
        (by intro _ _ _ walks; cases walks)
      exact hub.fate_driven event step id other (hub.registry.leave other) _ _
        drives (.scans somebody) found calm same
  | fetches other alarms found same silent =>
      have waits : (Operation.tick (.delivering alarms .awaitingLock)).Calm := by
        intro _ _ _ walks
        cases walks
      have present : step.hub.operation? other =
          some (.tick (.delivering alarms .awaitingLock)) := by
        rw [hub.operation?_moved step.hub _ other other _ _ found same, if_pos rfl]
      have after := step.hub.call?_of_calm other _ present waits
      have before := hub.call?_of_calm other _ found
        (by intro _ _ _ walks; cases walks)
      apply hub.fate_update _ step id other
        (hub.registry.request other .shared) _ _ [] (.fetches alarms) found same
      · rw [marks_calls]
        split
        · cases ‹hub.subject? _ = some id›
        · split
          · rename_i here
            subst here
            rw [after]
            rfl
          · rfl
      · simp [endMarks, Mark.endings]
      · rw [before]
        rfl
  | walks _ other operation next delivery drives found held before after same
      silent =>
      have calm := hub.call?_of_calm other operation found
        (calm_of_awaiting operation delivery before)
      exact hub.fate_driven event step id other hub.registry operation next
        drives (.walks operation next delivery held before after) found calm same
  | hears other operation next delivery listener rest report outcome found
      before after same silent =>
      have inside : hub.call? other = some (listener, delivery) :=
        (hub.call?_fanOut other listener delivery).mpr
          ⟨operation, rest, report, found, before⟩
      apply hub.fate_update _ step id other hub.registry operation next [outcome]
        (.hears operation next delivery listener rest report outcome before
          after) found same
      · rw [marks_calls]
        simp [subject?]
      · rw [endMarks_endings]
        split
        · rename_i here
          subst here
          rw [inside]
          rfl
        · rfl
      · rw [inside]
        rfl
  | drops other caller same silent =>
      obtain ⟨operation, found⟩ := (hub.mem_inFlight other).mp
        ((hub.mem_callerOperations other).mp caller).1
      apply hub.fate_forget _ step id other hub.registry same (Or.inr rfl) rfl
      intro here after began ended
      subst here
      exact .drops operation found after silent began ended
  | loses ids ticking same silent =>
      obtain ⟨began, ended⟩ := hub.marks_unaddressed .loseRuntime step id
        (by simp [subject?]) rfl
      have after := hub.operation?_lost step.hub ids id same
      by_cases lost : id ∈ ids
      · obtain ⟨operation, found⟩ := (hub.mem_inFlight id).mp
          (consistent.ticking id (ticking id lost))
        rw [if_pos lost] at after
        exact .drops operation found after silent began ended
      · rw [if_neg lost] at after
        exact .stays after began ended

theorem react_fate (hub : Hub) (now : Instant) (event : HubEvent)
    (step : Progress) (id : OperationId) (consistent : hub.Consistent)
    (reacted : hub.react now event = some step) : Fate hub event step id :=
  hub.turn_fate event step id consistent (hub.react_turn now event step reacted)

/-! ## Operations that are gone -/

section

variable (hub : Hub) (now : Instant) (event : HubEvent) (step : Progress)
  (id : OperationId)

/-- An event records no call of an operation that was not in flight. -/
theorem marks_of_absent (consistent : hub.Consistent)
    (reacted : hub.react now event = some step)
    (absent : hub.operation? id = none) :
    Mark.calls id (hub.marks event step) = [] ∧
      Mark.endings id (hub.marks event step) = [] := by
  cases hub.react_fate now event step id consistent reacted with
  | stays same began ended => exact ⟨began, ended⟩
  | begins operation named calm before after began ended => exact ⟨began, ended⟩
  | moves operation next heard motion before after began ended outcomes =>
      rw [absent] at before
      cases before
  | answers operation registry reply answer before after listeners replied began
      ended => exact ⟨began, ended⟩
  | drops operation before after silent began ended => exact ⟨began, ended⟩

/-- An event records no call of an operation that is gone after it. -/
theorem marks_of_gone (consistent : hub.Consistent)
    (reacted : hub.react now event = some step)
    (gone : step.hub.operation? id = none) :
    Mark.calls id (hub.marks event step) = [] ∧
      Mark.endings id (hub.marks event step) = [] := by
  cases hub.react_fate now event step id consistent reacted with
  | stays same began ended => exact ⟨began, ended⟩
  | begins operation named calm before after began ended => exact ⟨began, ended⟩
  | moves operation next heard motion before after began ended outcomes =>
      rw [gone] at after
      cases after
  | answers operation registry reply answer before after listeners replied began
      ended => exact ⟨began, ended⟩
  | drops operation before after silent began ended => exact ⟨began, ended⟩

/-- Whoever returns in an event answered in it. -/
theorem returned_answer (reply : Reply) (consistent : hub.Consistent)
    (reacted : hub.react now event = some step)
    (returned : .returned id reply ∈ hub.marks event step) :
    ∃ operation registry, hub.operation? id = some operation ∧
      Answer hub id operation registry reply ∧
      step.hub.operation? id = none ∧
      step.hub.registry.listeners = registry.listeners := by
  obtain ⟨current, lost, replied⟩ := hub.mem_returned event step id reply returned
  have gone := (step.hub.absent_iff id).mpr lost
  obtain ⟨operation, found⟩ := (hub.mem_inFlight id).mp current
  cases hub.react_fate now event step id consistent reacted with
  | stays same began ended =>
      rw [gone, found] at same
      cases same
  | begins first named calm before after began ended =>
      rw [gone] at after
      cases after
  | moves first next heard motion before after began ended outcomes =>
      rw [gone] at after
      cases after
  | answers first registry answered answer before after listeners shown began
      ended =>
      rw [replied] at shown
      cases shown
      exact ⟨first, registry, before, answer, gone, listeners⟩
  | drops first before after silent began ended =>
      rw [replied] at silent
      cases silent

end

end AlarmRelay.Hub
