import AlarmRelay.Proofs.Hub.Placed
import AlarmRelay.Proofs.Hub.TickCourse

/-!
# The records of ticks

Along every run the record of a tick in flight says how far it has got, and the
record of a tick that answered yields its answer.  `Ticked` ties a hub to its
journal and to its log of readings, and every event keeps it.
-/

set_option autoImplicit false

namespace AlarmRelay

namespace ReadMark

theorem begun_append (id : OperationId) (first second : List ReadMark) :
    begun id (first ++ second) = begun id first + begun id second :=
  List.count_append

theorem answers_append (id : OperationId) (first second : List ReadMark) :
    answers id (first ++ second) = answers id first ++ answers id second := by
  simp [answers]

end ReadMark

namespace Hub

/-- What the journal and the log of readings say about ticks. -/
structure Ticked (hub : Hub) (journal : List Mark) (log : List ReadMark) :
    Prop where
  /-- Operations to come got nothing. -/
  unborn : ∀ id, hub.nextOperation ≤ id →
    Mark.admissions id journal = [] ∧ ReadMark.begun id log = 0 ∧
      ReadMark.answers id log = []
  /-- What a tick in flight got is in step with its phase. -/
  looked : ∀ id phase, hub.operation? id = some (.tick phase) →
    Looked (hub.grant id) phase (Mark.admissions id journal)
      (ReadMark.begun id log) (ReadMark.answers id log)
  yields : ∀ id outcome, .returned id (.tick outcome) ∈ journal →
    (TickRecord.of id journal log).Yields outcome
  /-- What began as a tick is one until it is gone. -/
  asked : ∀ id, .requested id (.tick .checking) ∈ journal →
    id < hub.nextOperation ∧ ∀ operation,
      hub.operation? id = some operation → operation.isTick = true
  /-- It answers as a tick. -/
  answered : ∀ id reply, .requested id (.tick .checking) ∈ journal →
    .returned id reply ∈ journal → ∃ outcome, reply = .tick outcome

theorem ticked_create (config : HubConfig) : (create config).Ticked [] [] where
  unborn := by intro id _; exact ⟨rfl, rfl, rfl⟩
  looked := by intro id phase found; cases found
  yields := by intro id outcome member; cases member
  asked := by intro id member; cases member
  answered := by intro id reply member; cases member

/-! ## Records -/

section

variable (hub : Hub) (id : OperationId) (journal : List Mark)
  (log : List ReadMark)

/-- As many calls of an operation have ended as began, except for the one that it is
inside of. -/
theorem heard_length (told : hub.Told journal) (operation : Operation)
    (found : hub.operation? id = some operation) :
    (Mark.calls id journal).length =
      (Mark.outcomes id journal).length + (hub.call? id).toList.length := by
  have undropped : .dropped id ∉ journal := by
    intro member
    rw [(told.isOver id (Or.inl member)).1] at found
    cases found
  rw [told.ended id undropped, List.length_append, Mark.endedCalls,
    List.length_map, Mark.outcomes, List.length_map]

/-- The record of a tick in flight says how far it has got. -/
theorem ticked_stands (consistent : hub.Consistent) (told : hub.Told journal)
    (phase : TickPhase) (found : hub.operation? id = some (.tick phase))
    (looked : Looked (hub.grant id) phase (Mark.admissions id journal)
      (ReadMark.begun id log) (ReadMark.answers id log)) :
    TickRecord.Stands (hub.registry.lock.holdsShared id) hub.registry.listeners
      phase (TickRecord.of id journal log) := by
  have calm : (Operation.tick phase).Calm →
      Mark.calls id journal = [] ∧ Mark.outcomes id journal = [] := by
    intro still
    obtain ⟨calls, endings⟩ := told.calm id _ found still
    exact ⟨calls, by rw [Mark.outcomes, endings]; rfl⟩
  have grants : hub.grant id =
      if hub.registry.lock.holdsShared id = true then [hub.registry.listeners]
      else [] := by
    simp only [grant, holdsShared_iff]
  unfold TickRecord.of
  generalize Mark.admissions id journal = admissions at looked ⊢
  generalize ReadMark.begun id log = begun at looked ⊢
  generalize ReadMark.answers id log = answers at looked ⊢
  cases looked with
  | checks =>
      obtain ⟨calls, outcomes⟩ := calm (by intro _ _ _ walks; cases walks)
      rw [calls, outcomes, grants]
      split
      · rename_i holds
        exact .enters holds
      · rename_i unheld
        exact .waits (Bool.not_eq_true _ ▸ unheld)
  | reads first somebody =>
      obtain ⟨calls, outcomes⟩ := calm (by intro _ _ _ walks; cases walks)
      rw [calls, outcomes]
      exact .reads first somebody
  | delivers first alarms fanOut somebody =>
      cases fanOut with
      | awaitingLock =>
          obtain ⟨calls, outcomes⟩ := calm (by intro _ _ _ walks; cases walks)
          rw [calls, outcomes, grants]
          split
          · rename_i holds
            exact .reenters first alarms somebody holds
          · rename_i unheld
            exact .fetched first alarms somebody (Bool.not_eq_true _ ▸ unheld)
      | calling pending report =>
          have reads := (consistent.walking id _ _ pending report found rfl).1
          have held := (hub.holdsShared_iff id).mpr reads
          obtain ⟨counted, done, everybody, calls⟩ :=
            told.walking id _ _ pending report found rfl
          have inside := hub.call?_of_walking id _ _ pending report found rfl
          have heard := hub.heard_length id journal told _ found
          rw [calls, inside, List.length_map, List.length_append,
            Option.toList_map, List.length_map] at heard
          rw [grants, if_pos held, calls, counted, DispatchReport.tally_eq]
          exact .calls first alarms done pending _ somebody held everybody
            (Nat.add_right_cancel heard).symm

/-- The record of a tick that answers, with the answer of the source if it is that
one which ends it. -/
theorem stands_yields (event : HubEvent) (phase : TickPhase)
    (outcome : TickOutcome) (record : TickRecord)
    (ends : TickEnd hub id event phase outcome)
    (stands : TickRecord.Stands (hub.registry.lock.holdsShared id)
      hub.registry.listeners phase record) :
    TickRecord.Yields { record with
      answers := record.answers ++ ReadMark.answers id event.readEnds }
      outcome := by
  have unanswered : hub.Drives event id →
      ReadMark.answers id event.readEnds = [] := by
    intro drives
    cases drives <;> rfl
  cases ends with
  | skipped _ drives reads nobody =>
      rw [unanswered drives]
      rw [(hub.holdsShared_iff id).mpr reads, nobody] at stands
      cases stands with
      | waits unheld => cases unheld
      | enters holds => exact .skipped
  | failed scan message fault =>
      rw [readEnds_scan]
      cases stands with
      | reads first somebody => exact .failed first scan message somebody fault
  | delivered _ drives alarms counted =>
      rw [unanswered drives]
      cases stands with
      | calls first _ done pending outcomes somebody holds everybody heard =>
          rw [List.append_nil] at everybody
          simp only [List.head?_nil, Option.toList_none, List.append_nil]
          rw [everybody]
          exact .delivered first done alarms outcomes somebody heard

end

/-! ## One event -/

section

variable (hub : Hub) (now : Instant) (event : HubEvent) (step : Progress)
  (journal : List Mark) (log : List ReadMark) (id : OperationId)
  (lined : hub.Lined) (next : step.hub.Lined) (told : hub.Told journal)
  (ticked : hub.Ticked journal log)
  (reacted : hub.react now event = some step)

include lined next reacted

/-- Whoever is gone after an event got nothing in it but the answer of the
source. -/
theorem record_gone (gone : step.hub.operation? id = none) :
    TickRecord.of id (journal ++ hub.marks event step)
        (log ++ hub.readMarks event step) =
      { TickRecord.of id journal log with
        answers := ReadMark.answers id log ++
          ReadMark.answers id event.readEnds } := by
  obtain ⟨calls, endings⟩ := hub.marks_of_gone now event step id lined.consistent
    reacted gone
  have outcomes : Mark.outcomes id (hub.marks event step) = [] := by
    rw [Mark.outcomes, endings]
    rfl
  have admissions := hub.admissions_unread event step id next
    (step.hub.unheld_of_absent next id gone)
  have begun := hub.begun_still event step id next (by
    rw [isScanning_iff, gone]
    exact fun reading => absurd reading (by simp))
  simp only [TickRecord.of, Mark.admissions_append, ReadMark.begun_append,
    ReadMark.answers_append, Mark.calls_append, Mark.outcomes_append, admissions,
    begun, calls, outcomes, readMarks_answers, List.append_nil, Nat.add_zero]

omit lined next in
/-- The source answers nobody who is not there. -/
theorem unanswered_absent (absent : hub.operation? id = none) :
    ReadMark.answers id event.readEnds = [] := by
  apply readEnds_unanswered
  rintro scan rfl
  rw [(hub.answerScan_react now id scan step reacted).1] at absent
  cases absent

include ticked

theorem ticked_unborn (unborn : step.hub.nextOperation ≤ id) :
    Mark.admissions id (journal ++ hub.marks event step) = [] ∧
      ReadMark.begun id (log ++ hub.readMarks event step) = 0 ∧
      ReadMark.answers id (log ++ hub.readMarks event step) = [] := by
  have later := (hub.flow_names step.hub
    (hub.react_flow now event step reacted)).1
  obtain ⟨admissions, begun, answers⟩ :=
    ticked.unborn id (Nat.le_trans later unborn)
  have absent := hub.absent_of_unborn id lined.consistent
    (Nat.le_trans later unborn)
  have gone := step.hub.absent_of_unborn id next.consistent unborn
  have record := hub.record_gone now event step journal log id lined next reacted
    gone
  rw [hub.unanswered_absent now event step id reacted absent] at record
  simp only [TickRecord.of, TickRecord.mk.injEq] at record
  obtain ⟨sameAdmissions, sameBegun, sameAnswers, _⟩ := record
  rw [sameAdmissions, sameBegun, sameAnswers, admissions, begun, answers]
  exact ⟨rfl, rfl, rfl⟩

theorem ticked_looked (later : TickPhase)
    (after : step.hub.operation? id = some (.tick later)) :
    Looked (step.hub.grant id) later
      (Mark.admissions id (journal ++ hub.marks event step))
      (ReadMark.begun id (log ++ hub.readMarks event step))
      (ReadMark.answers id (log ++ hub.readMarks event step)) := by
  rw [Mark.admissions_append, ReadMark.begun_append, ReadMark.answers_append]
  cases found : hub.operation? id with
  | some operation =>
      have kind := hub.isTick_react now event step id operation _ reacted found
        after
      obtain ⟨phase, rfl⟩ := operation.isTick_iff.mp kind.symm
      exact hub.looked_react now event step id lined next reacted phase later _ _ _
        found after (ticked.looked id phase found)
  | none =>
      -- Nobody but a fresh tick comes into being in this event.
      cases hub.react_fate now event step id lined.consistent reacted with
      | begins operation named calm before present began ended =>
          rw [after] at present
          cases present
          subst named
          have begins := hub.turn_begins event step _ lined.consistent
            (hub.react_turn now event step reacted) after
          have fresh : later = .checking := by
            generalize same : Operation.tick later = operation at begins
            cases begins with
            | asks request => cases request <;> cases same; rfl
            | stops loop owned => cases same
            | ticks loop => cases same; rfl
          subst fresh
          obtain ⟨admissions, begun, answers⟩ :=
            ticked.unborn _ (Nat.le_refl _)
          have unheld := hub.unheld_of_absent lined _ found
          obtain ⟨granted, still, unanswered⟩ := hub.quiet_react now event step _
            lined next reacted _ after (by simp) (by
              rintro scan rfl
              rw [(hub.answerScan_react now _ scan step reacted).1] at found
              cases found)
          rw [hub.grant_unread _ unheld, List.nil_append] at granted
          rw [admissions, begun, answers, still, unanswered, ← granted]
          exact .checks
      | stays same began ended =>
          rw [same, found] at after
          cases after
      | moves first moved heard motion before present began ended outcomes =>
          rw [found] at before
          cases before
      | answers first registry reply answer before gone listeners replied began
          ended =>
          rw [found] at before
          cases before
      | drops first before gone silent began ended =>
          rw [found] at before
          cases before

theorem ticked_asked
    (requested : .requested id (.tick .checking) ∈
      journal ++ hub.marks event step) :
    id < step.hub.nextOperation ∧ ∀ operation,
      step.hub.operation? id = some operation → operation.isTick = true := by
  rcases List.mem_append.mp requested with old | new
  · obtain ⟨named, kind⟩ := ticked.asked id old
    have later := (hub.flow_names step.hub
      (hub.react_flow now event step reacted)).1
    refine ⟨Nat.lt_of_lt_of_le named later, ?_⟩
    intro operation after
    cases found : hub.operation? id with
    | some before =>
        rw [hub.isTick_react now event step id before operation reacted found
          after]
        exact kind before found
    | none =>
        have present := hub.flow_inFlight step.hub
          (hub.react_flow now event step reacted) id named
          ((step.hub.mem_inFlight id).mpr ⟨operation, after⟩)
        exact absurd present ((hub.absent_iff id).mp found)
  · have present := hub.requested_present now event step id _ lined.consistent
      reacted new
    refine ⟨next.consistent.named id
      ((step.hub.mem_inFlight id).mpr ⟨_, present⟩), ?_⟩
    intro operation after
    rw [present] at after
    cases after
    rfl

include told

theorem ticked_yields (outcome : TickOutcome)
    (returned : .returned id (.tick outcome) ∈
      journal ++ hub.marks event step) :
    (TickRecord.of id (journal ++ hub.marks event step)
      (log ++ hub.readMarks event step)).Yields outcome := by
  have gone := (hub.told_over now event step journal told lined.consistent reacted
    id (Or.inr ⟨_, returned⟩)).1
  rw [hub.record_gone now event step journal log id lined next reacted gone]
  rcases List.mem_append.mp returned with before | here
  · have absent := (told.isOver id (Or.inr ⟨_, before⟩)).1
    rw [hub.unanswered_absent now event step id reacted absent, List.append_nil]
    exact ticked.yields id outcome before
  · obtain ⟨phase, found⟩ := hub.returned_outcome now event step id outcome
      reacted here
    obtain ⟨_, same, ends⟩ := hub.returned_tick now event step id phase _ found
      reacted here
    cases same
    exact hub.stands_yields id event phase outcome _ ends
      (hub.ticked_stands id journal log lined.consistent told phase found
        (ticked.looked id phase found))

omit next in
theorem ticked_answered (reply : Reply)
    (requested : .requested id (.tick .checking) ∈
      journal ++ hub.marks event step)
    (returned : .returned id reply ∈ journal ++ hub.marks event step) :
    ∃ outcome, reply = .tick outcome := by
  rcases List.mem_append.mp requested with old | new
  · rcases List.mem_append.mp returned with before | here
    · exact ticked.answered id reply old before
    · obtain ⟨operation, registry, found, _⟩ := hub.returned_answer now event step
        id reply lined.consistent reacted here
      obtain ⟨phase, rfl⟩ :=
        operation.isTick_iff.mp ((ticked.asked id old).2 operation found)
      obtain ⟨outcome, same, _⟩ := hub.returned_tick now event step id phase reply
        found reacted here
      exact ⟨outcome, same⟩
  · -- A tick that begins in this event has not answered yet.
    have present := hub.requested_present now event step id _ lined.consistent
      reacted new
    have gone := (hub.told_over now event step journal told lined.consistent
      reacted id (Or.inr ⟨reply, returned⟩)).1
    rw [present] at gone
    cases gone

theorem ticked_react :
    step.hub.Ticked (journal ++ hub.marks event step)
      (log ++ hub.readMarks event step) where
  unborn := fun id => hub.ticked_unborn now event step journal log id lined next
    ticked reacted
  looked := fun id => hub.ticked_looked now event step journal log id lined next
    ticked reacted
  yields := fun id => hub.ticked_yields now event step journal log id lined next
    told ticked reacted
  asked := fun id => hub.ticked_asked now event step journal log id lined next
    ticked reacted
  answered := fun id => hub.ticked_answered now event step journal log id lined
    told ticked reacted

end

theorem ticked_run (config : HubConfig) (valid : config.validate = .ok ())
    (timeline : Timeline) (hub : Hub)
    (reached : (create config).run timeline = some hub) :
    hub.Ticked ((create config).journal timeline)
      ((create config).readings timeline) := by
  refine reached_induction
    (motive := fun past hub => hub.Ticked ((create config).journal past)
      ((create config).readings past)) ?_ (ticked_create config) reached
  intro past middle now event step before ticked reacted
  have here : (create config).run (past ++ [(now, event)]) = some step.hub :=
    (run_append _ _ _ _).mpr
      ⟨middle, before, (run_singleton _ _ _ _).mpr ⟨step, reacted, rfl⟩⟩
  have told := told_run (create config) middle past [] (consistent_create config)
    (told_create config) before
  rw [journal, readings, observe_snoc _ _ middle _ _ _ step before reacted,
    observe_snoc _ _ middle _ _ _ step before reacted]
  exact middle.ticked_react now event step _ _
    (lined_run config valid past middle before)
    (lined_run config valid _ step.hub here)
    told.2 ticked reacted

end Hub
end AlarmRelay
