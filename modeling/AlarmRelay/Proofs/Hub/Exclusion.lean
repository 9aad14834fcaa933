import AlarmRelay.Proofs.Hub.Settled

/-!
# Fan-outs and membership exclude each other

A fan-out reaches the listeners that were registered when it got the lock, all of
them unless it is dropped, and it returns after its last call.  An unsubscribed
listener is called no more until it joins again.
-/

set_option autoImplicit false

namespace AlarmRelay.Hub

/-- The journal records nothing more of the calls of an operation that is gone. -/
theorem gone_run (hub final : Hub) (timeline : Timeline) (id : OperationId)
    (consistent : hub.Consistent) (named : id < hub.nextOperation)
    (gone : hub.operation? id = none)
    (reached : hub.run timeline = some final) :
    Mark.calls id (hub.journal timeline) = [] ∧
      Mark.endings id (hub.journal timeline) = [] := by
  induction timeline generalizing hub with
  | nil => exact ⟨rfl, rfl⟩
  | cons entry rest ih =>
      obtain ⟨now, event⟩ := entry
      obtain ⟨step, reacted, restRun⟩ := (run_cons _ _ _ _ _).mp reached
      have turn := hub.react_turn now event step reacted
      have flow := hub.react_flow now event step reacted
      have later := (hub.flow_names step.hub flow).1
      have absent : step.hub.operation? id = none := by
        rw [absent_iff]
        intro member
        exact (hub.absent_iff id).mp gone
          (hub.flow_inFlight step.hub flow id named member)
      obtain ⟨began, ended⟩ := hub.marks_of_absent now event step id consistent
        reacted gone
      obtain ⟨calls, endings⟩ := ih step.hub
        (hub.consistent_turn event step consistent turn)
        (Nat.lt_of_lt_of_le named later) absent restRun
      rw [hub.journal_cons now event rest step reacted, Mark.calls_append,
        Mark.endings_append, began, ended, calls, endings]
      exact ⟨rfl, rfl⟩

/-! ## Order of calls -/

/-- In the event in which an operation answers it begins no call and ends none,
and it has ended every call that it began. -/
theorem returned_quiet (hub : Hub) (now : Instant) (event : HubEvent)
    (step : Progress) (journal : List Mark) (id : OperationId) (reply : Reply)
    (consistent : hub.Consistent) (told : hub.Told journal)
    (reacted : hub.react now event = some step)
    (returned : .returned id reply ∈ hub.marks event step) :
    step.hub.operation? id = none ∧
      Mark.calls id (hub.marks event step) = [] ∧
      Mark.endings id (hub.marks event step) = [] ∧
      Mark.endedCalls id journal = Mark.calls id journal := by
  obtain ⟨before, lost, replied⟩ := hub.mem_returned event step id reply returned
  have gone := (step.hub.absent_iff id).mpr lost
  obtain ⟨calls, endings⟩ := hub.marks_of_gone now event step id consistent
    reacted gone
  have kept : .dropped id ∉ journal ++ hub.marks event step := by
    intro dropped
    rcases List.mem_append.mp dropped with old | new
    · have absent := (told.isOver id (Or.inl old)).1
      exact absurd before ((hub.absent_iff id).mp absent)
    · have silent := ((hub.mem_dropped event step id).mp new).2.2
      rw [replied] at silent
      cases silent
  have whole := (hub.told_react now event step journal told consistent
    reacted).ended id kept
  refine ⟨gone, calls, endings, ?_⟩
  have none : Mark.endedCalls id (hub.marks event step) = [] := by
    rw [Mark.endedCalls, endings]
    rfl
  rw [Mark.calls_append, Mark.endedCalls_append, calls, none,
    step.hub.call?_of_absent id gone] at whole
  simpa using whole.symm

/-- An operation returns after every call that it made. -/
theorem returned_after_calls (hub final : Hub) (timeline : Timeline)
    (before after : List Mark) (id : OperationId) (reply : Reply)
    (consistent : hub.Consistent) (told : hub.Told [])
    (reached : hub.run timeline = some final)
    (split : hub.journal timeline = before ++ .returned id reply :: after) :
    Mark.endedCalls id before = Mark.calls id before ∧
      Mark.calls id after = [] ∧ Mark.endings id after = [] := by
  cases observe_split marks hub final timeline before after _ reached split with
  | found first last now event middle step left right firstRun reacted lastRun
      shown =>
      have returned : .returned id reply ∈ middle.marks event step := by
        simp [shown]
      obtain ⟨middleConsistent, middleTold⟩ :=
        hub.told_run middle first [] consistent told firstRun
      obtain ⟨gone, calls, endings, whole⟩ := middle.returned_quiet now event
        step _ id reply middleConsistent middleTold reacted returned
      have stepConsistent := middle.consistent_turn event step middleConsistent
        (middle.react_turn now event step reacted)
      have named := (middle.told_over now event step _ middleTold middleConsistent
        reacted id (Or.inr ⟨reply, List.mem_append_right _ returned⟩)).2
      obtain ⟨quiet, still⟩ := step.hub.gone_run final last id stepConsistent
        named gone lastRun
      rw [shown, Mark.calls_append, List.append_eq_nil_iff] at calls
      rw [shown, Mark.endings_append, List.append_eq_nil_iff] at endings
      have shownFirst : hub.observe marks first = hub.journal first := rfl
      have shownLast : step.hub.observe marks last = step.hub.journal last := rfl
      refine ⟨?_, ?_, ?_⟩
      · rw [shownFirst, Mark.endedCalls_append, Mark.calls_append, calls.1,
          Mark.endedCalls, Mark.endedCalls, endings.1]
        simpa [Mark.endedCalls] using whole
      · rw [shownLast, Mark.calls_append, quiet, List.append_nil]
        exact calls.2
      · rw [shownLast, Mark.endings_append, still, List.append_nil]
        exact endings.2

/-- An operation calls nobody before it is requested. -/
theorem requested_before_calls (hub final : Hub) (timeline : Timeline)
    (before after : List Mark) (id : OperationId) (operation : Operation)
    (consistent : hub.Consistent) (told : hub.Told [])
    (reached : hub.run timeline = some final)
    (split : hub.journal timeline = before ++ .requested id operation :: after) :
    Mark.calls id before = [] := by
  cases observe_split marks hub final timeline before after _ reached split with
  | found first last now event middle step left right firstRun reacted lastRun
      shown =>
      have requested : .requested id operation ∈ middle.marks event step := by
        simp [shown]
      obtain ⟨middleConsistent, middleTold⟩ :=
        hub.told_run middle first [] consistent told firstRun
      obtain ⟨_, fresh⟩ := middle.mem_requested event step id operation requested
      have absent := middle.absent_of_unborn id middleConsistent fresh
      obtain ⟨calls, _⟩ := middle.marks_of_absent now event step id
        middleConsistent reacted absent
      have unborn := (middleTold.unborn id fresh).1
      rw [shown, Mark.calls_append] at calls
      rw [Mark.calls_append, (List.append_eq_nil_iff.mp calls).1,
        List.append_nil]
      exact unborn

/-! ## Unsubscribed listeners -/

/-- A removal that answers leaves no handle of its listener behind. -/
theorem removed_absent (hub : Hub) (now : Instant) (event : HubEvent)
    (step : Progress) (id : OperationId) (listener : Listener) (reply : Reply)
    (consistent : hub.Consistent) (distinct : hub.registry.Distinct)
    (found : hub.operation? id = some (.remove listener))
    (reacted : hub.react now event = some step)
    (returned : .returned id reply ∈ hub.marks event step) :
    step.hub.Absent listener := by
  obtain ⟨operation, registry, present, answer, _, listeners⟩ :=
    hub.returned_answer now event step id reply consistent reacted returned
  rw [found] at present
  cases present
  cases answer with
  | parts _ held =>
      intro other member
      rw [listeners] at member
      exact hub.registry.absent_remove listener distinct other member
  | reads _ _ held read => cases read
  | ends _ delivery report _ walks reported => cases walks

/-- A listener that stays out of the registry is not called. -/
theorem silent_run (hub final : Hub) (timeline : Timeline)
    (listener : Listener) (consistent : hub.Consistent)
    (absent : hub.Absent listener)
    (nobody : ∀ other ∈ hub.joined timeline, other.isSame listener = false)
    (reached : hub.run timeline = some final) :
    (∀ id other delivery, final.call? id = some (other, delivery) →
      other.isSame listener = false) ∧
      Mark.received listener (hub.journal timeline) = [] := by
  induction timeline generalizing hub with
  | nil =>
      simp only [run, Option.some.injEq] at reached
      subst final
      refine ⟨?_, rfl⟩
      intro id other delivery inside
      exact absent other
        (hub.call?_registered id other delivery consistent inside)
  | cons entry rest ih =>
      obtain ⟨now, event⟩ := entry
      obtain ⟨step, reacted, restRun⟩ := (run_cons _ _ _ _ _).mp reached
      have joins := fun other =>
        hub.joined_cons now event rest step other reacted
      have next := hub.consistent_turn event step consistent
        (hub.react_turn now event step reacted)
      have out := hub.absent_react step listener absent (fun other member fresh =>
        nobody other ((joins other).mpr (Or.inl ⟨member, fresh⟩)))
      obtain ⟨calm, quiet⟩ := ih step.hub next out
        (fun other later => nobody other ((joins other).mpr (Or.inr later)))
        restRun
      refine ⟨calm, ?_⟩
      rw [hub.journal_cons now event rest step reacted, Mark.received_append,
        quiet, List.append_nil]
      apply List.eq_nil_iff_forall_not_mem.mpr
      intro delivery member
      obtain ⟨id, other, _, inside, same⟩ := hub.mem_received event step listener
        delivery member
      -- Whoever is called is registered, and the listener is not.
      rw [out other (step.hub.call?_registered id other delivery next inside)]
        at same
      cases same

/-! ## Exclusion -/

/-- How the fan-outs of a run and its changes of membership exclude each other. -/
structure Excludes (hub : Hub) (journal : List Mark) : Prop where
  /-- While the shared side is held the listeners stay as they were when it was
  granted. -/
  frozen : ∀ id, hub.registry.lock.holdsShared id = true →
    Mark.admission? id journal = some hub.registry.listeners
  /-- A walk holds the shared side until it is over. -/
  holds : ∀ id operation delivery pending report,
    hub.operation? id = some operation →
      operation.fanOut? = some (delivery, .calling pending report) →
        hub.registry.lock.holdsShared id = true
  /-- A fan-out reaches only listeners that were registered when it got the lock,
  in order. -/
  reaches : ∀ id, (Mark.calls id journal).map Prod.fst <+:
    (Mark.admission? id journal).getD []
  /-- A fan-out that answers has reached all of them. -/
  completes : ∀ id reply report, .returned id reply ∈ journal →
    reply.report? = some report →
      ∃ listeners, Mark.admission? id journal = some listeners ∧
        (Mark.calls id journal).map Prod.fst = listeners
  /-- A delivery that was requested and whatever else called somebody is in flight,
  answered with a report or was dropped. -/
  settles : ∀ id,
    ((∃ delivery cause fanOut,
      .requested id (.deliver delivery cause fanOut) ∈ journal) ∨
      Mark.calls id journal ≠ []) →
      (∃ operation, hub.operation? id = some operation) ∨
      (∃ reply report, .returned id reply ∈ journal ∧
        reply.report? = some report) ∨
      .dropped id ∈ journal
  /-- An operation answers after the end of every call that it made. -/
  returns : ∀ before after id reply,
    journal = before ++ .returned id reply :: after →
      Mark.endedCalls id before = Mark.calls id journal
  /-- What has not begun its walk has called nobody. -/
  unwalked : ∀ id, (hub.nextOperation ≤ id ∨ ∃ operation,
    hub.operation? id = some operation ∧ operation.Calm) →
      Mark.calls id journal = []
  /-- Calls of an operation begin after its request, so after the end of every
  call of an operation that answered before. -/
  follows : ∀ first second third id reply later operation,
    journal = first ++ .returned id reply ::
      (second ++ .requested later operation :: third) →
      Mark.endedCalls id first = Mark.calls id journal ∧
        Mark.calls later third = Mark.calls later journal
  /-- Once an unsubscription has answered, its listener is inside of no call and
  gets no other until it joins again. -/
  silences : ∀ id listener now event step reply,
    hub.operation? id = some (.remove listener) →
      hub.react now event = some step →
        .returned id reply ∈ hub.marks event step →
          ∀ timeline final, step.hub.run timeline = some final →
            (∀ other ∈ step.hub.joined timeline,
              other.isSame listener = false) →
            (∀ fanOut other delivery,
              final.call? fanOut = some (other, delivery) →
                other.isSame listener = false) ∧
              Mark.received listener (step.hub.journal timeline) = []

theorem settles_of_settled (hub : Hub) (journal : List Mark)
    (told : hub.Told journal) (settled : hub.Settled journal)
    (id : OperationId)
    (concerned : (∃ delivery cause fanOut,
      .requested id (.deliver delivery cause fanOut) ∈ journal) ∨
        Mark.calls id journal ≠ []) :
    (∃ operation, hub.operation? id = some operation) ∨
      (∃ reply report, .returned id reply ∈ journal ∧
        reply.report? = some report) ∨
      .dropped id ∈ journal := by
  -- A name that the journal mentions has been given out.
  have named : id < hub.nextOperation := by
    rcases concerned with ⟨delivery, cause, fanOut, requested⟩ | called
    · exact (settled.carried id delivery cause fanOut requested).1
    · apply Nat.lt_of_not_le
      intro unborn
      exact called (told.unborn id unborn).1
  cases found : hub.operation? id with
  | some operation => exact Or.inl ⟨operation, rfl⟩
  | none =>
      right
      rcases settled.settled id named found with dropped | ⟨reply, returned⟩
      · exact Or.inr dropped
      · left
        cases reported : reply.report? with
        | some report => exact ⟨reply, report, returned, reported⟩
        | none =>
            rcases concerned with ⟨delivery, cause, fanOut, requested⟩ | called
            · obtain ⟨report, shown⟩ := settled.reported id delivery cause fanOut
                reply requested returned
              rw [reported] at shown
              cases shown
            · exact absurd (settled.silent id reply returned reported) called

/-- Whatever callers, listeners, the alarm source and the runtime do to a hub,
its fan-outs and the changes of its membership exclude each other. -/
theorem fan_outs_exclude_membership (config : HubConfig) (timeline : Timeline)
    (hub : Hub) (reached : (create config).run timeline = some hub) :
    hub.Excludes ((create config).journal timeline) := by
  have start := consistent_create config
  have nothing := told_create config
  obtain ⟨consistent, told⟩ := (create config).told_run hub timeline [] start
    nothing reached
  rw [List.nil_append] at told
  have returns : ∀ before after id reply,
      (create config).journal timeline =
        before ++ .returned id reply :: after →
      Mark.endedCalls id before =
        Mark.calls id ((create config).journal timeline) := by
    intro before after id reply split
    obtain ⟨ended, quiet, _⟩ := (create config).returned_after_calls hub timeline
      before after id reply start nothing reached split
    rw [split, Mark.calls_append, ended]
    simpa [Mark.calls] using quiet
  exact {
    frozen := fun id held => told.admitted id ((hub.holdsShared_iff id).mp held)
    holds := fun id operation delivery pending report found walks =>
      (hub.holdsShared_iff id).mpr
        (consistent.walking id operation delivery pending report found walks).1
    reaches := by
      intro id
      cases found : hub.operation? id with
      | none => exact told.gone id found
      | some operation => exact hub.told_prefix _ told consistent id operation found
    completes := by
      intro id reply report returned reported
      obtain ⟨_, listeners, delivery, admitted, calls⟩ :=
        told.complete id reply report returned reported
      exact ⟨listeners, admitted, by simp [calls, Function.comp_def]⟩
    settles := hub.settles_of_settled _ told
      (settled_run config timeline hub reached)
    returns := returns
    unwalked := by
      intro id idle
      rcases idle with unborn | ⟨operation, found, calm⟩
      · exact (told.unborn id unborn).1
      · exact (told.calm id operation found calm).1
    follows := by
      intro first second third id reply later operation split
      refine ⟨returns first _ id reply split, ?_⟩
      have whole : (create config).journal timeline =
          (first ++ .returned id reply :: second) ++
            .requested later operation :: third := by
        simp [split]
      have before := (create config).requested_before_calls hub timeline _ third
        later operation start nothing reached whole
      rw [whole, Mark.calls_append, before]
      simp [Mark.calls]
    silences := by
      intro id listener now event step reply found reacted returned later final
        run nobody
      have distinct := distinct_run config timeline hub reached
      have absent := hub.removed_absent now event step id listener reply consistent
        distinct found reacted returned
      exact step.hub.silent_run final later listener
        (hub.consistent_turn event step consistent
          (hub.react_turn now event step reacted)) absent nobody run }

/-- A listener leaves while it is inside of a call: the removal waits for the end
of the walk. -/
def departureTimeline : Timeline :=
  [(⟨0⟩, .ask (.subscribe ⟨1, "first"⟩)), (⟨0⟩, .advance 0),
    (⟨1⟩, .ask (.publish (.deleted 7 "disk"))), (⟨1⟩, .advance 1),
    (⟨2⟩, .ask (.unsubscribe ⟨1, "first"⟩)),
    (⟨3⟩, .answerCall 1 (.panicked .other)), (⟨3⟩, .advance 1),
    (⟨4⟩, .advance 2)]

theorem fan_outs_exclude_membership_departed :
    ∃ hub, (create .standard).run departureTimeline = some hub ∧
      hub.registry.listeners = [] ∧
        hub.Excludes ((create .standard).journal departureTimeline) :=
  ⟨_, rfl, rfl, fan_outs_exclude_membership .standard departureTimeline _ rfl⟩

end AlarmRelay.Hub
