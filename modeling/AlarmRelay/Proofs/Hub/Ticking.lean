import AlarmRelay.Proofs.Hub.Journey
import AlarmRelay.Proofs.Hub.TickCount
import AlarmRelay.Proofs.Hub.TickRecord

/-!
# Ticks run their course

What a tick does depends on two looks at the registry and on one reading of the
source, and on nothing else that happens around it: whom it calls, what it answers
and what is counted follow from the listeners at its two grants of the lock and from
what the source answers.  Unless it is dropped, a tick answers in every fair run.
-/

set_option autoImplicit false

namespace AlarmRelay.Hub

/-! ## Ticks that are dropped -/

/-- An operation is dropped by its caller or with the runtime. -/
theorem dropped_drops (hub : Hub) (now : Instant) (event : HubEvent)
    (step : Progress) (id : OperationId)
    (reacted : hub.react now event = some step)
    (dropped : .dropped id ∈ hub.marks event step) : hub.Drops event id := by
  obtain ⟨current, lost, silent⟩ := (hub.mem_dropped event step id).mp dropped
  have turn := hub.react_turn now event step reacted
  -- In every other event nothing goes, or something answers.
  have kept : ∀ more, step.hub.inFlight = hub.inFlight ++ more →
      hub.Drops event id := by
    intro more grown
    rw [grown] at lost
    exact absurd (List.mem_append_left more current) lost
  have still : step.hub.inFlight = hub.inFlight → hub.Drops event id :=
    fun same => kept [] (by rw [same, List.append_nil])
  cases turn with
  | drops other caller same _ =>
      rw [alike_inFlight _ _ same, inFlight_forget, List.mem_filter] at lost
      have named : id = other := by simpa [current] using lost
      exact Or.inl (named ▸ rfl)
  | loses ids ticking same _ =>
      rw [alike_inFlight _ _ same, inFlight_forgotten] at lost
      have member : id ∈ ids := by simpa [current] using lost
      exact Or.inr ⟨rfl, ticking id member⟩
  | answers _ other operation registry reply drives found answer same replied =>
      rw [silent] at replied
      cases replied
  | fails other scan message found same replied =>
      rw [silent] at replied
      cases replied
  | rests _ same => exact still (alike_inFlight _ _ same)
  | asks request same =>
      exact kept _ ((alike_inFlight _ _ same).trans (inFlight_begin _ _))
  | stops loop owned same =>
      exact kept _ ((alike_inFlight _ _ same).trans (inFlight_begin _ _))
  | ticks loop first last live registry operations =>
      have names : step.hub.inFlight =
          (hub.begin (.tick .checking)).1.inFlight :=
        congrArg (List.map Prod.fst) operations
      exact kept _ (names.trans (inFlight_begin _ _))
  | fetches other alarms found same =>
      exact still ((alike_inFlight _ _ same).trans (inFlight_putOperation _ _ _))
  | scans _ other drives found held somebody same =>
      exact still ((alike_inFlight _ _ same).trans (inFlight_putOperation _ _ _))
  | walks _ other operation next delivery drives found held before after same =>
      exact still ((alike_inFlight _ _ same).trans (inFlight_putOperation _ _ _))
  | hears other operation next delivery listener rest report outcome found before
      after same =>
      exact still ((alike_inFlight _ _ same).trans (inFlight_putOperation _ _ _))

/-! ## Along a run -/

/-- Nobody is registered twice in a grant of the lock. -/
theorem admissions_distinct (config : HubConfig) (timeline : Timeline)
    (hub : Hub) (reached : (create config).run timeline = some hub)
    (id : OperationId) (members : List Listener)
    (granted : members ∈
      Mark.admissions id ((create config).journal timeline)) :
    (members.map Listener.id).Nodup := by
  have start : (create config).registry.Distinct ∧
      ∀ members ∈ Mark.admissions id [], (members.map Listener.id).Nodup :=
    ⟨distinct_create config, by intro members member; cases member⟩
  have kept : hub.registry.Distinct ∧
      ∀ members ∈ Mark.admissions id ((create config).observe marks timeline),
        (members.map Listener.id).Nodup :=
    observe_induction
      (motive := fun hub past => hub.registry.Distinct ∧
        ∀ members ∈ Mark.admissions id past, (members.map Listener.id).Nodup)
      (by
        rintro before now event step past ⟨distinct, older⟩ reacted
        have next := before.distinct_react now event step distinct reacted
        refine ⟨next, ?_⟩
        intro members member
        rw [Mark.admissions_append] at member
        rcases List.mem_append.mp member with old | new
        · exact older members old
        · rw [((before.marks_admissions event step id members).mp new).2.2]
          exact step.hub.registry.distinct_iff.mp next)
      start reached
  exact kept.2 members granted

/-- A tick in flight answers in every fair run from there on in which nobody drops
it. -/
theorem tick_returns (journey : Journey) (fair : journey.IsFair)
    (lined : ∀ index, (journey.hubs index).Lined) (id : OperationId)
    (phase : TickPhase)
    (found : (journey.hubs 0).operation? id = some (.tick phase))
    (spared : ∀ index,
      ¬ (journey.hubs index).Drops (journey.events index) id) :
    ∃ count reply, .returned id reply ∈
      (journey.hubs 0).journal (journey.opening count) := by
  obtain ⟨last, _, present, gone⟩ :=
    journey.tick_ends fair lined 0 id phase found
  obtain ⟨step, reacted, next⟩ := journey.goes last
  have lost : id ∉ step.hub.inFlight := (absent_iff _ _).mp (next ▸ gone)
  cases replied : step.reply with
  | none =>
      exact absurd ((journey.hubs last).dropped_drops _ _ step id reacted
        (((journey.hubs last).mem_dropped _ step id).mpr
          ⟨present, lost, replied⟩)) (spared last)
  | some reply =>
      refine ⟨last + 1, reply, ?_⟩
      rw [journey.opening_succ, journal, observe_snoc _ _ _ _ _ _ step
        (journey.opening_run last) reacted]
      apply List.mem_append_right
      apply (mem_marks _ _ step _).mpr
      exact Or.inr (Or.inl ⟨id, present, lost, by rw [replied]; rfl⟩)

/-- Everything that is known of the ticks of a run from `start` to `hub`. -/
structure Ticking (start : Hub) (timeline : Timeline) (hub : Hub) : Prop where
  /-- A tick in flight has done what its phase says and nothing else. -/
  stands : ∀ id phase, hub.operation? id = some (.tick phase) →
    TickRecord.Stands (hub.registry.lock.holdsShared id)
      hub.registry.listeners phase
      (.of id (start.journal timeline) (start.readings timeline))
  /-- A tick that answered did what its answer says and nothing else. -/
  answers : ∀ id reply,
    .requested id (.tick .checking) ∈ start.journal timeline →
      .returned id reply ∈ start.journal timeline →
        ∃ outcome, reply = .tick outcome ∧ TickRecord.Yields
          (.of id (start.journal timeline) (start.readings timeline)) outcome
  /-- Nobody is in the list of a grant twice, so nobody is called twice. -/
  distinct : ∀ id, ∀ members ∈ Mark.admissions id (start.journal timeline),
    (members.map Listener.id).Nodup
  /-- No tick answers twice, ... -/
  once : ((Mark.tickOutcomes (start.journal timeline)).map Prod.fst).Nodup
  /-- ... and each that answered is counted once, under its outcome; nothing else is
  counted. -/
  counted : ∀ (ledger : AlarmRelay.Ledger) (label : String),
    (ledger.recordAll (Signal.metrics (start.signals timeline))).ticks.count
        label =
      ledger.ticks.count label +
        (Mark.tickOutcomes (start.journal timeline)).countP fun entry =>
          entry.2.counts label
  /-- A tick in flight answers in every fair run from here on, unless its caller
  drops it or its loop is lost with the runtime. -/
  returns : ∀ id (journey : Journey),
    .requested id (.tick .checking) ∈ start.journal timeline →
      id ∈ hub.inFlight → journey.hubs 0 = hub → journey.IsFair →
        (∀ index, ¬ (journey.hubs index).Drops (journey.events index) id) →
          ∃ count outcome, .returned id (.tick outcome) ∈
            hub.journal (journey.opening count)

/-- Whatever happens around it, a tick skips its scan, fails or delivers it to those
who are registered when it has the scan, and answers and is counted accordingly. -/
theorem ticks_run_their_course (config : HubConfig)
    (valid : config.validate = .ok ()) (timeline : Timeline) (hub : Hub)
    (reached : (create config).run timeline = some hub) :
    (create config).Ticking timeline hub := by
  have told := (told_run (create config) hub timeline [] (consistent_create config)
    (told_create config) reached).2
  have ticked := ticked_run config valid timeline hub reached
  refine {
    stands := ?_
    answers := ?_
    distinct := admissions_distinct config timeline hub reached
    once := outcomes_run config timeline hub reached
    counted := ticks_counted config timeline hub reached
    returns := ?_ }
  · intro id phase found
    exact hub.ticked_stands id _ _ (consistent_run config timeline hub reached) told
      phase found (ticked.looked id phase found)
  · intro id reply requested returned
    obtain ⟨outcome, rfl⟩ := ticked.answered id reply requested returned
    exact ⟨outcome, rfl, ticked.yields id outcome returned⟩
  · intro id journey requested current start fair spared
    subst start
    obtain ⟨operation, found⟩ := (mem_inFlight _ id).mp current
    obtain ⟨phase, rfl⟩ :=
      operation.isTick_iff.mp ((ticked.asked id requested).2 operation found)
    have onward : ∀ count, (create config).run
        (timeline ++ journey.opening count) = some (journey.hubs count) :=
      fun count => (run_append _ _ _ _).mpr
        ⟨journey.hubs 0, reached, journey.opening_run count⟩
    obtain ⟨count, reply, returned⟩ := tick_returns journey fair
      (fun index => lined_run config valid _ _ (onward index)) id phase found spared
    have whole := journal_append (create config) (journey.hubs 0) timeline
      (journey.opening count) reached
    obtain ⟨outcome, rfl⟩ := (ticked_run config valid _ _ (onward count)).answered
      id reply (by rw [whole]; exact List.mem_append_left _ requested)
      (by rw [whole]; exact List.mem_append_right _ returned)
    exact ⟨count, outcome, returned⟩

/-- While a tick reads the source, one listener joins and the only other one
leaves. -/
def changeoverTimeline : Timeline :=
  [(⟨0⟩, .ask (.subscribe ⟨1, "pager"⟩)), (⟨0⟩, .advance 0),
    (⟨1⟩, .ask .snapshot), (⟨1⟩, .advance 1),
    (⟨2⟩, .ask (.subscribe ⟨2, "mail"⟩)), (⟨2⟩, .advance 2),
    (⟨2⟩, .ask (.unsubscribe ⟨1, "pager"⟩)), (⟨2⟩, .advance 3)]

/-- The hub during that reading. -/
def changeoverHub : Hub :=
  ((create .standard).run changeoverTimeline).getD default

/-- The source answers, and the listener that joined refuses the scan. -/
def refusalTimeline : Timeline :=
  [(⟨3⟩, .answerScan 1 (.alarms [])), (⟨3⟩, .advance 1),
    (⟨4⟩, .answerCall 1 (.failed (.rejected "full"))), (⟨4⟩, .advance 1)]

/-- The source panics under one tick and fails under another, and the last listener
leaves before a third. -/
def outageTimeline : Timeline :=
  [(⟨5⟩, .ask .snapshot), (⟨5⟩, .advance 4),
    (⟨6⟩, .answerScan 4 (.panicked (.fixedText "boom"))),
    (⟨7⟩, .ask .snapshot), (⟨7⟩, .advance 5),
    (⟨8⟩, .answerScan 5 (.failed (.query "down"))),
    (⟨9⟩, .ask (.unsubscribe ⟨2, "mail"⟩)), (⟨9⟩, .advance 6),
    (⟨10⟩, .ask .snapshot), (⟨10⟩, .advance 7)]

def courseTimeline : Timeline :=
  changeoverTimeline ++ refusalTimeline ++ outageTimeline

/-- What a tick has done at the end of it all. -/
def courseRecord (id : OperationId) : TickRecord :=
  .of id ((create .standard).journal courseTimeline)
    ((create .standard).readings courseTimeline)

/-- What is counted by then for the outcome of a tick. -/
def courseCount (label : String) : Nat :=
  (AlarmRelay.Ledger.empty.recordAll
    (Signal.metrics ((create .standard).signals courseTimeline))).ticks.count label

theorem course_outcomes :
    Mark.tickOutcomes ((create .standard).journal courseTimeline) =
      [(1, .delivered 0 ⟨1, 1⟩), (4, .failed "panicked: boom"),
        (5, .failed "Query failed: down"), (7, .skipped)] := by
  decide +kernel

theorem ticks_run_their_course_changeover :
    HubConfig.standard.validate = .ok () ∧
      (create .standard).run changeoverTimeline = some changeoverHub ∧
      (∃ final, (create .standard).run courseTimeline = some final ∧
        (create .standard).Ticking courseTimeline final) ∧
      (courseRecord 1 =
          ⟨[[⟨1, "pager"⟩], [⟨2, "mail"⟩]], 1, [.alarms []],
            [(⟨2, "mail"⟩, .snapshot [])], [.failed (.rejected "full")]⟩ ∧
        courseRecord 4 =
          ⟨[[⟨2, "mail"⟩]], 1, [.panicked (.fixedText "boom")], [], []⟩ ∧
        courseRecord 5 =
          ⟨[[⟨2, "mail"⟩]], 1, [.failed (.query "down")], [], []⟩ ∧
        courseRecord 7 = ⟨[[]], 0, [], [], []⟩) ∧
      Mark.tickOutcomes ((create .standard).journal courseTimeline) =
        [(1, .delivered 0 ⟨1, 1⟩), (4, .failed "panicked: boom"),
          (5, .failed "Query failed: down"), (7, .skipped)] ∧
      (courseCount "delivered" = 1 ∧ courseCount "failed" = 2 ∧
        courseCount "skipped" = 1) ∧
      ∃ (journey : Journey) (count : Nat) (outcome : TickOutcome),
        journey.hubs 0 = changeoverHub ∧ journey.IsFair ∧
          .returned 1 (.tick outcome) ∈
            changeoverHub.journal (journey.opening count) := by
  have ticking := ticks_run_their_course .standard rfl courseTimeline _ rfl
  have counted := fun label => ticking.counted .empty label
  rw [course_outcomes] at counted
  refine ⟨rfl, rfl, ⟨_, rfl, ticking⟩,
    ⟨by decide +kernel, by decide +kernel, by decide +kernel, by decide +kernel⟩,
    course_outcomes, ⟨counted "delivered", counted "failed", counted "skipped"⟩,
    ?_⟩
  have harmless : ∀ entry ∈ refusalTimeline,
      entry.2 ≠ .abandon 1 ∧ entry.2 ≠ .loseRuntime := by decide
  obtain ⟨journey, start, fair, events⟩ :=
    Journey.exists_resting changeoverHub _ refusalTimeline rfl rfl rfl rfl
  obtain ⟨count, outcome, returned⟩ :=
    (ticks_run_their_course .standard rfl changeoverTimeline changeoverHub
      rfl).returns 1 journey (by decide) (by decide) start fair (by
        intro index drops
        rcases events index with ⟨entry, member, same⟩ | same
        · rw [Drops, same] at drops
          exact drops.elim (harmless entry member).1
            fun lost => (harmless entry member).2 lost.1
        · rw [Drops, same] at drops
          exact drops.elim HubEvent.noConfusion
            fun lost => HubEvent.noConfusion lost.1)
  exact ⟨journey, count, outcome, start, fair, returned⟩

end AlarmRelay.Hub
