import AlarmRelay.Proofs.Hub.Told

/-!
# What becomes of a delivery

An operation that is no longer in flight has answered or was dropped, and the
journal says which.  A delivery stays what it was requested as, and it answers
with a report.
-/

set_option autoImplicit false

namespace AlarmRelay.Hub

/-- The operation under the newest name is the one that was put there. -/
theorem lookup_newest (operations : List (OperationId × Operation))
    (names : List OperationId) (newest : OperationId) (operation : Operation)
    (ordered : operations.map Prod.fst = names ++ [newest])
    (fresh : newest ∉ names) (member : (newest, operation) ∈ operations) :
    operations.lookup newest = some operation := by
  obtain ⟨first, last, rfl, older, single⟩ := List.map_eq_append_iff.mp ordered
  obtain ⟨entry, rfl, named⟩ := List.map_eq_singleton_iff.mp single
  have absent : ∀ other, (newest, other) ∉ first := by
    intro other before
    exact fresh (older ▸ List.mem_map_of_mem (f := Prod.fst) before)
  have unknown : first.lookup newest = none := by
    rw [List.lookup_eq_none_iff]
    intro pair before
    rw [bne_iff_ne]
    intro same
    exact absent pair.2 (by rw [same]; exact before)
  have same : (newest, operation) = entry := by
    rcases List.mem_append.mp member with before | here
    · exact absurd before (absent operation)
    · exact List.mem_singleton.mp here
  rw [List.lookup_append, unknown, Option.none_or, ← same]
  simp

theorem requested_present (hub : Hub) (now : Instant) (event : HubEvent)
    (step : Progress) (id : OperationId) (operation : Operation)
    (consistent : hub.Consistent) (reacted : hub.react now event = some step)
    (requested : .requested id operation ∈ hub.marks event step) :
    step.hub.operation? id = some operation := by
  obtain ⟨member, fresh⟩ := hub.mem_requested event step id operation requested
  have current : id ∈ step.hub.inFlight :=
    List.mem_map_of_mem (f := Prod.fst) member
  have unknown : id ∉ hub.inFlight := by
    intro before
    exact absurd (consistent.named id before) (Nat.not_lt.mpr fresh)
  have newest : step.hub.inFlight = hub.inFlight ++ [hub.nextOperation] →
      step.hub.operation? id = some operation := by
    intro grown
    have named : id = hub.nextOperation := by
      rw [grown, List.mem_append, List.mem_singleton] at current
      exact current.resolve_left unknown
    subst named
    exact lookup_newest step.hub.operations hub.inFlight _ operation grown
      unknown member
  cases hub.react_flow now event step reacted with
  | ebbs gone names inFlight ticks =>
      exact absurd ((inFlight id).mp current).1 unknown
  | grows names inFlight ticks => exact newest inFlight
  | ticks loop live names inFlight ticks => exact newest inFlight

/-- A name that has been given out was given out before or is in flight. -/
theorem named_or_present (hub : Hub) (now : Instant) (event : HubEvent)
    (step : Progress) (id : OperationId)
    (reacted : hub.react now event = some step)
    (named : id < step.hub.nextOperation) :
    id < hub.nextOperation ∨ id ∈ step.hub.inFlight := by
  have grown : step.hub.nextOperation = hub.nextOperation + 1 →
      step.hub.inFlight = hub.inFlight ++ [hub.nextOperation] →
        id < hub.nextOperation ∨ id ∈ step.hub.inFlight := by
    intro names inFlight
    rw [names] at named
    rcases Nat.lt_succ_iff_lt_or_eq.mp named with older | newest
    · exact Or.inl older
    · right
      rw [inFlight, newest]
      exact List.mem_append_right _ (List.mem_singleton.mpr rfl)
  cases hub.react_flow now event step reacted with
  | ebbs gone names inFlight ticks =>
      rw [names] at named
      exact Or.inl named
  | grows names inFlight ticks => exact grown names inFlight
  | ticks loop live names inFlight ticks => exact grown names inFlight

/-! ## Deliveries -/

/-- An operation that carries a fan-out carries the same delivery after it moved
on. -/
theorem motion_carries (hub : Hub) (id : OperationId)
    (operation next : Operation) (heard : List CallOutcome)
    (delivery : Delivery) (fanOut : FanOut)
    (motion : Motion hub id operation next heard)
    (carries : operation.fanOut? = some (delivery, fanOut)) :
    ∃ later, next.fanOut? = some (delivery, later) := by
  cases motion with
  | scans somebody => cases carries
  | fetches alarms => cases carries
  | walks _ _ carried held before after =>
      rw [before] at carries
      cases carries
      exact ⟨_, after⟩
  | hears _ _ carried listener rest report outcome before after =>
      rw [before] at carries
      cases carries
      exact ⟨_, after⟩

/-- An operation hands out one delivery only, however it moves on. -/
theorem carrying_react (hub : Hub) (now : Instant) (event : HubEvent)
    (step : Progress) (id : OperationId) (delivery : Delivery)
    (consistent : hub.Consistent) (named : id < hub.nextOperation)
    (carries : ∀ operation, hub.operation? id = some operation →
      ∃ fanOut, operation.fanOut? = some (delivery, fanOut))
    (reacted : hub.react now event = some step) :
    ∀ operation, step.hub.operation? id = some operation →
      ∃ fanOut, operation.fanOut? = some (delivery, fanOut) := by
  intro operation found
  cases hub.react_fate now event step id consistent reacted with
  | stays same began ended =>
      rw [same] at found
      exact carries operation found
  | begins first fresh calm before after began ended =>
      exact absurd fresh (Nat.ne_of_lt named)
  | moves old next heard motion before after began ended outcomes =>
      rw [after] at found
      cases found
      obtain ⟨fanOut, carried⟩ := carries old before
      exact hub.motion_carries id old operation heard delivery fanOut motion
        carried
  | answers old registry reply answer before after listeners replied began
      ended =>
      rw [after] at found
      cases found
  | drops old before after silent began ended =>
      rw [after] at found
      cases found

/-- An operation that carries a fan-out answers with its report. -/
theorem answer_reports (hub : Hub) (id : OperationId) (operation : Operation)
    (registry : Registry) (reply : Reply) (delivery : Delivery)
    (fanOut : FanOut) (answer : Answer hub id operation registry reply)
    (carries : operation.fanOut? = some (delivery, fanOut)) :
    ∃ report, fanOut = .calling [] report ∧ reply.report? = some report := by
  cases answer with
  | ends _ carried report _ before reported =>
      rw [before] at carries
      cases carries
      exact ⟨report, rfl, reported⟩
  | reads _ _ held read =>
      have plain := (operation.readReply?_plain _ _ read).1
      rw [plain] at carries
      cases carries
  | _ => cases carries

/-- An operation that answers without a report carries no fan-out. -/
theorem answer_calm (hub : Hub) (id : OperationId) (operation : Operation)
    (registry : Registry) (reply : Reply)
    (answer : Answer hub id operation registry reply)
    (unreported : reply.report? = none) : operation.Calm := by
  intro delivery pending report walks
  obtain ⟨made, _, reported⟩ := hub.answer_reports id operation registry reply
    delivery _ answer walks
  rw [unreported] at reported
  cases reported

/-- What the journal says about operations that are over. -/
structure Settled (hub : Hub) (journal : List Mark) : Prop where
  /-- They answered or were dropped. -/
  settled : ∀ id, id < hub.nextOperation → hub.operation? id = none →
    .dropped id ∈ journal ∨ ∃ reply, .returned id reply ∈ journal
  /-- A delivery in flight is the one that was requested. -/
  carried : ∀ id delivery cause fanOut,
    .requested id (.deliver delivery cause fanOut) ∈ journal →
      id < hub.nextOperation ∧
        ∀ operation, hub.operation? id = some operation →
          ∃ later, operation.fanOut? = some (delivery, later)
  /-- A delivery answered with a report. -/
  reported : ∀ id delivery cause fanOut reply,
    .requested id (.deliver delivery cause fanOut) ∈ journal →
      .returned id reply ∈ journal → ∃ report, reply.report? = some report
  /-- A delivery hands out what was requested. -/
  handed : ∀ id delivery cause fanOut,
    .requested id (.deliver delivery cause fanOut) ∈ journal →
      ∀ call ∈ Mark.calls id journal, call.2 = delivery
  /-- Whatever answered without a report had called nobody. -/
  silent : ∀ id reply, .returned id reply ∈ journal → reply.report? = none →
    Mark.calls id journal = []

theorem settled_create (config : HubConfig) : (create config).Settled [] where
  settled := by intro id named; cases named
  carried := by intro id delivery cause fanOut member; cases member
  reported := by intro id delivery cause fanOut reply member; cases member
  handed := by intro id delivery cause fanOut member; cases member
  silent := by intro id reply member; cases member

section

variable (hub : Hub) (now : Instant) (event : HubEvent) (step : Progress)
  (journal : List Mark)

theorem settled_over (settled : hub.Settled journal)
    (reacted : hub.react now event = some step) (id : OperationId)
    (named : id < step.hub.nextOperation) (gone : step.hub.operation? id = none) :
    .dropped id ∈ journal ++ hub.marks event step ∨
      ∃ reply, .returned id reply ∈ journal ++ hub.marks event step := by
  have lost := (step.hub.absent_iff id).mp gone
  have older := (hub.named_or_present now event step id reacted named).resolve_right
    lost
  cases before : hub.operation? id with
  | none =>
      rcases settled.settled id older before with dropped | ⟨reply, returned⟩
      · exact Or.inl (List.mem_append_left _ dropped)
      · exact Or.inr ⟨reply, List.mem_append_left _ returned⟩
  | some operation =>
      have current := (hub.mem_inFlight id).mpr ⟨operation, before⟩
      cases replied : step.reply with
      | none =>
          exact Or.inl (List.mem_append_right _
            ((hub.mem_dropped event step id).mpr ⟨current, lost, replied⟩))
      | some reply =>
          refine Or.inr ⟨reply, List.mem_append_right _ ?_⟩
          apply (hub.mem_marks event step _).mpr
          exact Or.inr (Or.inl ⟨id, current, lost, by rw [replied]; rfl⟩)

theorem settled_carried (settled : hub.Settled journal)
    (consistent : hub.Consistent) (reacted : hub.react now event = some step)
    (id : OperationId) (delivery : Delivery) (cause : String) (fanOut : FanOut)
    (requested : .requested id (.deliver delivery cause fanOut) ∈
      journal ++ hub.marks event step) :
    id < step.hub.nextOperation ∧
      ∀ operation, step.hub.operation? id = some operation →
        ∃ later, operation.fanOut? = some (delivery, later) := by
  rcases List.mem_append.mp requested with old | new
  · obtain ⟨older, carries⟩ := settled.carried id delivery cause fanOut old
    have later := (hub.flow_names step.hub
      (hub.react_flow now event step reacted)).1
    exact ⟨Nat.lt_of_lt_of_le older later,
      hub.carrying_react now event step id delivery consistent older carries
        reacted⟩
  · have present := hub.requested_present now event step id _ consistent reacted
      new
    have next := hub.consistent_turn event step consistent
      (hub.react_turn now event step reacted)
    refine ⟨next.named id ((step.hub.mem_inFlight id).mpr ⟨_, present⟩), ?_⟩
    intro operation found
    rw [present] at found
    cases found
    exact ⟨fanOut, rfl⟩

theorem settled_reported (settled : hub.Settled journal)
    (told : hub.Told journal) (consistent : hub.Consistent)
    (reacted : hub.react now event = some step) (id : OperationId)
    (delivery : Delivery) (cause : String) (fanOut : FanOut) (reply : Reply)
    (requested : .requested id (.deliver delivery cause fanOut) ∈
      journal ++ hub.marks event step)
    (returned : .returned id reply ∈ journal ++ hub.marks event step) :
    ∃ report, reply.report? = some report := by
  rcases List.mem_append.mp requested with old | new
  · rcases List.mem_append.mp returned with before | here
    · exact settled.reported id delivery cause fanOut reply old before
    · obtain ⟨operation, registry, found, answer, _⟩ :=
        hub.returned_answer now event step id reply consistent reacted here
      obtain ⟨stage, carries⟩ :=
        (settled.carried id delivery cause fanOut old).2 operation found
      obtain ⟨report, _, reported⟩ := hub.answer_reports id operation registry
        reply delivery stage answer carries
      exact ⟨report, reported⟩
  · -- An operation that begins in this event has not answered yet.
    have present := hub.requested_present now event step id _ consistent reacted
      new
    obtain ⟨_, fresh⟩ := hub.mem_requested event step id _ new
    rcases List.mem_append.mp returned with before | here
    · have older := (told.isOver id (Or.inr ⟨reply, before⟩)).2
      exact absurd older (Nat.not_lt.mpr fresh)
    · obtain ⟨_, lost, _⟩ := hub.mem_returned event step id reply here
      exact absurd ((step.hub.mem_inFlight id).mpr ⟨_, present⟩) lost

theorem settled_handed (settled : hub.Settled journal)
    (told : hub.Told journal) (consistent : hub.Consistent)
    (reacted : hub.react now event = some step) (id : OperationId)
    (delivery : Delivery) (cause : String) (fanOut : FanOut)
    (requested : .requested id (.deliver delivery cause fanOut) ∈
      journal ++ hub.marks event step)
    (call : Listener × Delivery)
    (member : call ∈ Mark.calls id (journal ++ hub.marks event step)) :
    call.2 = delivery := by
  have carries := (hub.settled_carried now event step journal settled consistent
    reacted id delivery cause fanOut requested).2
  -- A call that begins in this event is the one that the fan-out is inside of.
  have inside : call ∈ (step.hub.call? id).toList → call.2 = delivery := by
    intro current
    obtain ⟨listener, carried⟩ := call
    obtain ⟨operation, rest, report, found, walks⟩ :=
      (step.hub.call?_fanOut id listener carried).mp (by simpa using current)
    obtain ⟨later, same⟩ := carries operation found
    rw [walks] at same
    cases same
    rfl
  rw [Mark.calls_append] at member
  rcases List.mem_append.mp member with before | here
  · rcases List.mem_append.mp requested with old | new
    · exact settled.handed id delivery cause fanOut old call before
    · obtain ⟨_, fresh⟩ := hub.mem_requested event step id _ new
      rw [(told.unborn id fresh).1] at before
      cases before
  · rw [marks_calls] at here
    split at here
    · exact inside here
    · cases here

theorem settled_silent (settled : hub.Settled journal)
    (told : hub.Told journal) (consistent : hub.Consistent)
    (reacted : hub.react now event = some step) (id : OperationId)
    (reply : Reply)
    (returned : .returned id reply ∈ journal ++ hub.marks event step)
    (unreported : reply.report? = none) :
    Mark.calls id (journal ++ hub.marks event step) = [] := by
  obtain ⟨gone, _⟩ := hub.told_over now event step journal told consistent
    reacted id (Or.inr ⟨reply, returned⟩)
  obtain ⟨began, _⟩ := hub.marks_of_gone now event step id consistent reacted gone
  rw [Mark.calls_append, began, List.append_nil]
  rcases List.mem_append.mp returned with before | here
  · exact settled.silent id reply before unreported
  · obtain ⟨operation, registry, found, answer, _⟩ :=
      hub.returned_answer now event step id reply consistent reacted here
    exact (told.calm id operation found
      (hub.answer_calm id operation registry reply answer unreported)).1

end

theorem settled_run (config : HubConfig) (timeline : Timeline) (hub : Hub)
    (reached : (create config).run timeline = some hub) :
    hub.Settled ((create config).journal timeline) := by
  have kept : (hub.Consistent ∧
      hub.Told ([] ++ (create config).journal timeline)) ∧
        hub.Settled ([] ++ (create config).journal timeline) := observe_induction
    (motive := fun hub past =>
      (hub.Consistent ∧ hub.Told past) ∧ hub.Settled past)
    (fun before now event step past kept reacted =>
      ⟨⟨before.consistent_turn event step kept.1.1
          (before.react_turn now event step reacted),
        before.told_react now event step past kept.1.2 kept.1.1 reacted⟩,
        { settled := before.settled_over now event step past kept.2 reacted
          carried := before.settled_carried now event step past kept.2 kept.1.1
            reacted
          reported := before.settled_reported now event step past kept.2
            kept.1.2 kept.1.1 reacted
          handed := before.settled_handed now event step past kept.2 kept.1.2
            kept.1.1 reacted
          silent := before.settled_silent now event step past kept.2 kept.1.2
            kept.1.1 reacted }⟩)
    ⟨⟨consistent_create config, told_create config⟩, settled_create config⟩
    reached
  exact kept.2

end AlarmRelay.Hub
