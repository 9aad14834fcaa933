import AlarmRelay.Proofs.Hub.Fate
import AlarmRelay.Proofs.Hub.Membership
import AlarmRelay.Proofs.Hub.Ticks

/-!
# What a journal tells

The journal of a run knows where every fan-out stands: whom it has called, over
which listeners it was admitted, and which of its calls have ended.  `Told` is
that relation between a hub and its journal, kept by every event.
-/

set_option autoImplicit false

namespace AlarmRelay

namespace DispatchReport

/-- The report of a fan-out whose calls ended with these outcomes. -/
def tally (outcomes : List CallOutcome) : DispatchReport :=
  outcomes.foldl record .empty

theorem tally_append (outcomes : List CallOutcome) (outcome : CallOutcome) :
    tally (outcomes ++ [outcome]) = (tally outcomes).record outcome := by
  simp [tally]

theorem tally_eq (outcomes : List CallOutcome) :
    tally outcomes =
      ⟨outcomes.length, outcomes.countP CallOutcome.isFault⟩ := by
  have from_report : ∀ report : DispatchReport,
      outcomes.foldl record report =
        ⟨report.attempted + outcomes.length,
          report.failed + outcomes.countP CallOutcome.isFault⟩ := by
    induction outcomes with
    | nil => intro report; rfl
    | cons outcome rest ih =>
        intro report
        rw [List.foldl_cons, ih]
        cases outcome with
        | accepted =>
            simp [record, CallOutcome.error?, CallOutcome.isFault]
            omega
        | failed error =>
            simp [record, CallOutcome.error?, CallOutcome.isFault,
              List.countP_cons]
            omega
        | panicked payload =>
            simp [record, CallOutcome.error?, CallOutcome.isFault,
              List.countP_cons]
            omega
  rw [tally, from_report]
  simp [empty]

end DispatchReport

namespace Hub

theorem calm_or_walking (operation : Operation) :
    operation.Calm ∨ ∃ delivery pending report,
      operation.fanOut? = some (delivery, .calling pending report) := by
  cases carried : operation.fanOut? with
  | none =>
      exact Or.inl (by intro _ _ _ walks; rw [carried] at walks; cases walks)
  | some pair =>
      obtain ⟨delivery, fanOut⟩ := pair
      cases fanOut with
      | awaitingLock => exact Or.inl (calm_of_awaiting _ delivery carried)
      | calling pending report =>
          exact Or.inr ⟨delivery, pending, report, rfl⟩

/-- A walk is inside the call to the first listener that it has left. -/
theorem call?_of_walking (hub : Hub) (id : OperationId)
    (operation : Operation) (delivery : Delivery) (pending : List Listener)
    (report : DispatchReport) (found : hub.operation? id = some operation)
    (walks : operation.fanOut? = some (delivery, .calling pending report)) :
    hub.call? id = pending.head?.map fun listener => (listener, delivery) := by
  cases pending with
  | nil =>
      cases inside : hub.call? id with
      | none => rfl
      | some call =>
          obtain ⟨listener, carried⟩ := call
          obtain ⟨other, rest, counted, present, calling⟩ :=
            (hub.call?_fanOut id listener carried).mp inside
          rw [found] at present
          cases present
          rw [walks] at calling
          cases calling
  | cons listener rest =>
      exact (hub.call?_fanOut id listener delivery).mpr
        ⟨operation, rest, report, found, walks⟩

/-- An operation that answers is inside of no call. -/
theorem call?_of_answer (hub : Hub) (id : OperationId) (operation : Operation)
    (registry : Registry) (reply : Reply)
    (found : hub.operation? id = some operation)
    (answer : Answer hub id operation registry reply) :
    hub.call? id = none := by
  cases answer with
  | ends _ delivery report _ before reported =>
      rw [hub.call?_of_walking id operation delivery [] report found before]
      rfl
  | reads _ _ held read =>
      have plain := operation.readReply?_plain _ _ read
      exact hub.call?_of_calm id operation found
        (by intro _ _ _ walks; rw [plain.1] at walks; cases walks)
  | _ =>
      exact hub.call?_of_calm id _ found (by intro _ _ _ walks; cases walks)

/-! ## Admissions -/

theorem admission?_append (id : OperationId) (first second : List Mark) :
    Mark.admission? id (first ++ second) =
      (Mark.admission? id second).or (Mark.admission? id first) := by
  simp [Mark.admission?, Mark.admissions_append, List.getLast?_append]

/-- A new holder of the shared side was admitted over the present listeners. -/
theorem admission?_granted (hub : Hub) (event : HubEvent) (step : Progress)
    (id : OperationId) (after : id ∈ step.hub.registry.lock.readers)
    (before : id ∉ hub.registry.lock.readers) :
    Mark.admission? id (hub.marks event step) =
      some step.hub.registry.listeners := by
  have member := (hub.marks_admissions event step id _).mpr
    ⟨after, before, rfl⟩
  cases last : Mark.admission? id (hub.marks event step) with
  | none =>
      rw [List.getLast?_eq_none_iff.mp last] at member
      cases member
  | some listeners =>
      have shown := List.mem_of_getLast? last
      rw [((hub.marks_admissions event step id listeners).mp shown).2.2]

theorem admission?_kept (hub : Hub) (event : HubEvent) (step : Progress)
    (id : OperationId) (kept : id ∈ step.hub.registry.lock.readers →
      id ∈ hub.registry.lock.readers) :
    Mark.admission? id (hub.marks event step) = none := by
  rw [Mark.admission?, List.getLast?_eq_none_iff]
  apply List.eq_nil_iff_forall_not_mem.mpr
  intro listeners member
  obtain ⟨after, before, _⟩ := (hub.marks_admissions event step id _).mp member
  exact before (kept after)

/-- Only operations in flight read. -/
theorem inFlight_of_reads (hub : Hub) (id : OperationId)
    (consistent : hub.Consistent) (reads : id ∈ hub.registry.lock.readers) :
    id ∈ hub.inFlight :=
  consistent.queued id (FairLock.tickets_of_readers _ id reads)

/-! ## The journal and the hub -/

/-- A walk has called the listeners that it has not left, in order, and is inside
the call to the next one; its report counts the calls that ended. -/
structure Walked (hub : Hub) (journal : List Mark) (id : OperationId)
    (delivery : Delivery) (pending : List Listener)
    (report : DispatchReport) : Prop where
  counted : report = .tally (Mark.outcomes id journal)
  called : ∃ done, hub.registry.listeners = done ++ pending ∧
    Mark.calls id journal =
      (done ++ pending.head?.toList).map fun listener => (listener, delivery)

/-- What the journal of a run says about the operations of its hub. -/
structure Told (hub : Hub) (journal : List Mark) : Prop where
  /-- Nothing is told of operations to come. -/
  unborn : ∀ id, hub.nextOperation ≤ id →
    Mark.calls id journal = [] ∧ Mark.endings id journal = [] ∧
      Mark.admission? id journal = none
  /-- A holder of the shared side was admitted over the present listeners. -/
  admitted : ∀ id ∈ hub.registry.lock.readers,
    Mark.admission? id journal = some hub.registry.listeners
  /-- An operation that is not walking has called nobody. -/
  calm : ∀ id operation, hub.operation? id = some operation →
    operation.Calm → Mark.calls id journal = [] ∧ Mark.endings id journal = []
  /-- Every walk is told from its beginning. -/
  walking : ∀ id operation delivery pending report,
    hub.operation? id = some operation →
      operation.fanOut? = some (delivery, .calling pending report) →
        Walked hub journal id delivery pending report
  /-- All calls but the one under way have ended, unless they were dropped. -/
  ended : ∀ id, .dropped id ∉ journal →
    Mark.calls id journal =
      Mark.endedCalls id journal ++ (hub.call? id).toList
  /-- An operation that answered or was dropped is gone. -/
  isOver : ∀ id, (.dropped id ∈ journal ∨ ∃ reply, .returned id reply ∈ journal) →
    hub.operation? id = none ∧ id < hub.nextOperation
  /-- An operation that is gone called some of the listeners over which it was
  admitted, from the first one on. -/
  gone : ∀ id, hub.operation? id = none →
    (Mark.calls id journal).map Prod.fst <+:
      (Mark.admission? id journal).getD []
  /-- It called all of them with one delivery if it answered with a report, which
  counts the outcomes. -/
  complete : ∀ id reply report, .returned id reply ∈ journal →
    reply.report? = some report →
      report = .tally (Mark.outcomes id journal) ∧
        ∃ listeners delivery,
          Mark.admission? id journal = some listeners ∧
          Mark.calls id journal = listeners.map fun listener =>
            (listener, delivery)

theorem told_create (config : HubConfig) : (create config).Told [] where
  unborn := by intro id _; exact ⟨rfl, rfl, rfl⟩
  admitted := by intro id reads; cases reads
  calm := by intro id operation found; cases found
  walking := by intro id operation delivery pending report found; cases found
  ended := by intro id _; rfl
  isOver := by intro id member; simp at member
  gone := by intro id _; exact List.nil_prefix
  complete := by intro id reply report member; cases member

/-! ## One event -/

section

variable (hub : Hub) (now : Instant) (event : HubEvent) (step : Progress)
  (journal : List Mark)

theorem told_absent (id : OperationId) (next : step.hub.Consistent)
    (absent : step.hub.operation? id = none) :
    Mark.admission? id (hub.marks event step) = none := by
  apply hub.admission?_kept
  intro reads
  exact absurd (step.hub.inFlight_of_reads id next reads)
    ((step.hub.absent_iff id).mp absent)

theorem told_unborn (told : hub.Told journal) (consistent : hub.Consistent)
    (reacted : hub.react now event = some step) (id : OperationId)
    (unborn : step.hub.nextOperation ≤ id) :
    Mark.calls id (journal ++ hub.marks event step) = [] ∧
      Mark.endings id (journal ++ hub.marks event step) = [] ∧
        Mark.admission? id (journal ++ hub.marks event step) = none := by
  have turn := hub.react_turn now event step reacted
  have next := hub.consistent_turn event step consistent turn
  have later := (hub.flow_names step.hub
    (hub.react_flow now event step reacted)).1
  obtain ⟨calls, endings, admission⟩ := told.unborn id (Nat.le_trans later unborn)
  have before := hub.absent_of_unborn id consistent (Nat.le_trans later unborn)
  have after := step.hub.absent_of_unborn id next unborn
  obtain ⟨began, ended⟩ := hub.marks_of_absent now event step id consistent
    reacted before
  rw [Mark.calls_append, Mark.endings_append, admission?_append, calls, endings,
    admission, hub.told_absent event step id next after, began, ended]
  exact ⟨rfl, rfl, rfl⟩

theorem told_admitted (told : hub.Told journal) (consistent : hub.Consistent)
    (reacted : hub.react now event = some step) (id : OperationId)
    (reads : id ∈ step.hub.registry.lock.readers) :
    Mark.admission? id (journal ++ hub.marks event step) =
      some step.hub.registry.listeners := by
  rw [admission?_append]
  by_cases before : id ∈ hub.registry.lock.readers
  · rw [hub.admission?_kept event step id (fun _ => before), Option.none_or,
      told.admitted id before,
      hub.react_listeners now event step id consistent before reacted]
  · rw [hub.admission?_granted event step id reads before, Option.some_or]

theorem told_calm (told : hub.Told journal) (consistent : hub.Consistent)
    (reacted : hub.react now event = some step) (id : OperationId)
    (operation : Operation) (found : step.hub.operation? id = some operation)
    (calm : operation.Calm) :
    Mark.calls id (journal ++ hub.marks event step) = [] ∧
      Mark.endings id (journal ++ hub.marks event step) = [] := by
  rw [Mark.calls_append, Mark.endings_append]
  cases hub.react_fate now event step id consistent reacted with
  | stays same began ended =>
      rw [same] at found
      obtain ⟨calls, endings⟩ := told.calm id operation found calm
      simp [calls, endings, began, ended]
  | begins first named _ before after began ended =>
      obtain ⟨calls, endings, _⟩ := told.unborn id (Nat.le_of_eq named.symm)
      simp [calls, endings, began, ended]
  | moves old next heard motion before after began ended outcomes =>
      rw [after] at found
      cases found
      have silent := step.hub.call?_of_calm id operation after calm
      have plain : old.Calm := by
        cases motion with
        | scans somebody => intro _ _ _ walks; cases walks
        | fetches alarms => intro _ _ _ walks; cases walks
        | walks _ _ delivery held waits walk => exact absurd walk (calm _ _ _)
        | hears _ _ delivery listener rest report outcome walked walk =>
            exact absurd walk (calm _ _ _)
      obtain ⟨calls, endings⟩ := told.calm id old before plain
      have quiet := hub.call?_of_calm id old before plain
      rw [silent] at began
      rw [quiet] at ended
      have none : Mark.endings id (hub.marks event step) = [] :=
        List.map_eq_nil_iff.mp ended
      simp [calls, endings, began, none]
  | answers old registry reply answer before after listeners replied began
      ended =>
      rw [after] at found
      cases found
  | drops old before after silent began ended =>
      rw [after] at found
      cases found

theorem told_walking (told : hub.Told journal) (consistent : hub.Consistent)
    (reacted : hub.react now event = some step) (id : OperationId)
    (operation : Operation) (delivery : Delivery) (pending : List Listener)
    (report : DispatchReport)
    (found : step.hub.operation? id = some operation)
    (walks : operation.fanOut? = some (delivery, .calling pending report)) :
    Walked step.hub (journal ++ hub.marks event step) id delivery pending
      report := by
  have inside := step.hub.call?_of_walking id operation delivery pending report
    found walks
  cases hub.react_fate now event step id consistent reacted with
  | stays same began ended =>
      rw [same] at found
      obtain ⟨reads, _⟩ := consistent.walking id operation delivery pending
        report found walks
      obtain ⟨counted, done, split, calls⟩ := told.walking id operation delivery
        pending report found walks
      have unheard : Mark.outcomes id (hub.marks event step) = [] := by
        rw [Mark.outcomes, ended]
        rfl
      constructor
      · rw [Mark.outcomes_append, unheard, List.append_nil]
        exact counted
      · refine ⟨done, ?_, ?_⟩
        · rw [hub.react_listeners now event step id consistent reads reacted]
          exact split
        · rw [Mark.calls_append, began, List.append_nil]
          exact calls
  | begins first named calm before after began ended =>
      rw [after] at found
      cases found
      exact absurd walks (calm _ _ _)
  | moves old next heard motion before after began ended outcomes =>
      rw [after] at found
      cases found
      cases motion with
      | scans somebody => cases walks
      | fetches alarms => cases walks
      | walks _ _ carried held waits walk =>
          rw [walk] at walks
          cases walks
          have plain := calm_of_awaiting old delivery waits
          obtain ⟨calls, endings⟩ := told.calm id old before plain
          have reads := (hub.holdsShared_iff id).mp held
          -- Nobody has been called yet: the first call begins in this event.
          constructor
          · rw [Mark.outcomes_append, outcomes, Mark.outcomes, endings]
            rfl
          · refine ⟨[], ?_, ?_⟩
            · exact hub.react_listeners now event step id consistent reads
                reacted
            · rw [Mark.calls_append, calls, began, inside]
              cases hub.registry.listeners <;> rfl
      | hears _ _ carried listener rest counted outcome walked walk =>
          rw [walk] at walks
          cases walks
          obtain ⟨tallied, done, split, calls⟩ := told.walking id old delivery
            _ counted before walked
          obtain ⟨reads, _⟩ := consistent.walking id old delivery _ counted
            before walked
          -- The listener that answered joins those with whom the walk is done.
          constructor
          · rw [Mark.outcomes_append, outcomes, DispatchReport.tally_append,
              ← tallied]
          · refine ⟨done ++ [listener], ?_, ?_⟩
            · rw [hub.react_listeners now event step id consistent reads
                reacted, split, List.append_assoc]
              rfl
            · rw [Mark.calls_append, calls, began, inside]
              cases pending <;> simp
  | answers old registry reply answer before after listeners replied began
      ended =>
      rw [after] at found
      cases found
  | drops old before after silent began ended =>
      rw [after] at found
      cases found

theorem told_ended (told : hub.Told journal) (consistent : hub.Consistent)
    (reacted : hub.react now event = some step) (id : OperationId)
    (kept : .dropped id ∉ journal ++ hub.marks event step) :
    Mark.calls id (journal ++ hub.marks event step) =
      Mark.endedCalls id (journal ++ hub.marks event step) ++
        (step.hub.call? id).toList := by
  rw [List.mem_append, not_or] at kept
  have before := told.ended id kept.1
  rw [Mark.calls_append, Mark.endedCalls_append, before]
  cases hub.react_fate now event step id consistent reacted with
  | stays same began ended =>
      have inside : step.hub.call? id = hub.call? id := by
        simp only [call?, same]
      simp [began, inside, Mark.endedCalls, ended]
  | begins operation named calm absent present began ended =>
      have outside := hub.call?_of_absent id absent
      have inside := step.hub.call?_of_calm id operation present calm
      simp [began, inside, outside, Mark.endedCalls, ended]
  | moves old next heard motion found after began ended outcomes =>
      rw [began, ended, List.append_assoc]
  | answers old registry reply answer found after listeners replied began
      ended =>
      have outside := hub.call?_of_answer id old registry reply found answer
      have inside := step.hub.call?_of_absent id after
      simp [began, inside, outside, Mark.endedCalls, ended]
  | drops old found after silent began ended =>
      have current := (hub.mem_inFlight id).mpr ⟨old, found⟩
      have lost := (step.hub.absent_iff id).mp after
      exact absurd ((hub.mem_dropped event step id).mpr ⟨current, lost, silent⟩)
        kept.2

theorem told_over (told : hub.Told journal) (consistent : hub.Consistent)
    (reacted : hub.react now event = some step) (id : OperationId)
    (ended : .dropped id ∈ journal ++ hub.marks event step ∨
      ∃ reply, .returned id reply ∈ journal ++ hub.marks event step) :
    step.hub.operation? id = none ∧ id < step.hub.nextOperation := by
  have flow := hub.react_flow now event step reacted
  have later := (hub.flow_names step.hub flow).1
  have past : (.dropped id ∈ journal ∨ ∃ reply, .returned id reply ∈ journal) →
      step.hub.operation? id = none ∧ id < step.hub.nextOperation := by
    intro old
    obtain ⟨absent, named⟩ := told.isOver id old
    refine ⟨(step.hub.absent_iff id).mpr ?_, Nat.lt_of_lt_of_le named later⟩
    intro member
    exact (hub.absent_iff id).mp absent
      (hub.flow_inFlight step.hub flow id named member)
  have present : id ∈ hub.inFlight → id ∉ step.hub.inFlight →
      step.hub.operation? id = none ∧ id < step.hub.nextOperation := by
    intro before after
    exact ⟨(step.hub.absent_iff id).mpr after,
      Nat.lt_of_lt_of_le (consistent.named id before) later⟩
  rcases ended with dropped | ⟨reply, returned⟩
  · -- What was over before the event stays so, as names are used once.
    rcases List.mem_append.mp dropped with old | new
    · exact past (Or.inl old)
    · obtain ⟨before, after, _⟩ := (hub.mem_dropped event step id).mp new
      exact present before after
  · rcases List.mem_append.mp returned with old | new
    · exact past (Or.inr ⟨reply, old⟩)
    · obtain ⟨before, after, _⟩ := hub.mem_returned event step id reply new
      exact present before after

/-- An operation in flight has called some of the listeners over which it was
admitted last, from the first one on. -/
theorem told_prefix (told : hub.Told journal) (consistent : hub.Consistent)
    (id : OperationId) (operation : Operation)
    (found : hub.operation? id = some operation) :
    (Mark.calls id journal).map Prod.fst <+:
      (Mark.admission? id journal).getD [] := by
  rcases calm_or_walking operation with calm | ⟨delivery, pending, report, walks⟩
  · rw [(told.calm id operation found calm).1]
    exact List.nil_prefix
  · obtain ⟨reads, _⟩ := consistent.walking id operation delivery pending report
      found walks
    obtain ⟨_, done, split, calls⟩ := told.walking id operation delivery pending
      report found walks
    rw [told.admitted id reads, calls, Option.getD_some, split]
    have heads : (done ++ pending.head?.toList) <+: done ++ pending := by
      cases pending with
      | nil => exact List.prefix_refl _
      | cons listener rest => exact ⟨rest, by simp⟩
    simpa [Function.comp_def] using heads

theorem told_gone (told : hub.Told journal) (consistent : hub.Consistent)
    (reacted : hub.react now event = some step) (id : OperationId)
    (gone : step.hub.operation? id = none) :
    (Mark.calls id (journal ++ hub.marks event step)).map Prod.fst <+:
      (Mark.admission? id (journal ++ hub.marks event step)).getD [] := by
  have next := hub.consistent_turn event step consistent
    (hub.react_turn now event step reacted)
  obtain ⟨began, _⟩ := hub.marks_of_gone now event step id consistent reacted gone
  rw [Mark.calls_append, admission?_append,
    hub.told_absent event step id next gone, Option.none_or, began,
    List.append_nil]
  cases found : hub.operation? id with
  | none => exact told.gone id found
  | some operation =>
      exact hub.told_prefix journal told consistent id operation found

/-- An answer with a report comes from a walk that has called everybody. -/
theorem told_answer (told : hub.Told journal) (consistent : hub.Consistent)
    (id : OperationId) (operation : Operation) (registry : Registry)
    (reply : Reply) (report : DispatchReport)
    (found : hub.operation? id = some operation)
    (answer : Answer hub id operation registry reply)
    (reported : reply.report? = some report) :
    report = .tally (Mark.outcomes id journal) ∧
      ∃ listeners delivery,
        Mark.admission? id journal = some listeners ∧
        Mark.calls id journal =
          listeners.map fun listener => (listener, delivery) := by
  cases answer with
  | ends _ delivery counted _ walked shown =>
      rw [shown] at reported
      cases reported
      obtain ⟨reads, _⟩ := consistent.walking id operation delivery [] report
        found walked
      obtain ⟨tallied, done, split, calls⟩ := told.walking id operation delivery
        [] report found walked
      refine ⟨tallied, done, delivery, ?_, ?_⟩
      · rw [told.admitted id reads, split, List.append_nil]
      · simpa using calls
  | reads _ _ held read =>
      rw [(operation.readReply?_plain _ _ read).2] at reported
      cases reported
  | _ => cases reported

theorem told_complete (told : hub.Told journal) (consistent : hub.Consistent)
    (reacted : hub.react now event = some step) (id : OperationId)
    (reply : Reply) (report : DispatchReport)
    (returned : .returned id reply ∈ journal ++ hub.marks event step)
    (reported : reply.report? = some report) :
    report = .tally (Mark.outcomes id (journal ++ hub.marks event step)) ∧
      ∃ listeners delivery,
        Mark.admission? id (journal ++ hub.marks event step) = some listeners ∧
        Mark.calls id (journal ++ hub.marks event step) =
          listeners.map fun listener => (listener, delivery) := by
  have next := hub.consistent_turn event step consistent
    (hub.react_turn now event step reacted)
  obtain ⟨gone, _⟩ := hub.told_over now event step journal told consistent
    reacted id (Or.inr ⟨reply, returned⟩)
  obtain ⟨began, ended⟩ := hub.marks_of_gone now event step id consistent reacted
    gone
  have unheard : Mark.outcomes id (hub.marks event step) = [] := by
    rw [Mark.outcomes, ended]
    rfl
  rw [Mark.calls_append, Mark.outcomes_append, admission?_append,
    hub.told_absent event step id next gone, Option.none_or, began, unheard,
    List.append_nil, List.append_nil]
  rcases List.mem_append.mp returned with before | here
  · exact told.complete id reply report before reported
  · obtain ⟨operation, registry, found, answer, _⟩ :=
      hub.returned_answer now event step id reply consistent reacted here
    exact hub.told_answer journal told consistent id operation registry reply
      report found answer reported

/-- Every event keeps what the journal tells. -/
theorem told_react (told : hub.Told journal) (consistent : hub.Consistent)
    (reacted : hub.react now event = some step) :
    step.hub.Told (journal ++ hub.marks event step) where
  unborn := hub.told_unborn now event step journal told consistent reacted
  admitted := hub.told_admitted now event step journal told consistent reacted
  calm := hub.told_calm now event step journal told consistent reacted
  walking := hub.told_walking now event step journal told consistent reacted
  ended := hub.told_ended now event step journal told consistent reacted
  isOver := hub.told_over now event step journal told consistent reacted
  gone := hub.told_gone now event step journal told consistent reacted
  complete := hub.told_complete now event step journal told consistent reacted

end

theorem told_run (hub final : Hub) (timeline : Timeline) (past : List Mark)
    (consistent : hub.Consistent) (told : hub.Told past)
    (reached : hub.run timeline = some final) :
    final.Consistent ∧ final.Told (past ++ hub.journal timeline) :=
  observe_induction
    (motive := fun hub past => hub.Consistent ∧ hub.Told past)
    (fun before now event step past kept reacted =>
      ⟨before.consistent_turn event step kept.1
        (before.react_turn now event step reacted),
        before.told_react now event step past kept.2 kept.1 reacted⟩)
    ⟨consistent, told⟩ reached

end Hub
end AlarmRelay
