import AlarmRelay.Hub.Tick
import AlarmRelay.Proofs.Hub.Healing
import AlarmRelay.Proofs.Hub.Lined
import AlarmRelay.Proofs.Hub.Waiting
import Mathlib.Data.List.Count

/-!
# One event in the life of a tick

What an event does to the holders of the lock and to the readings of the source.  A
holder gives up the lock only when it is gone or goes to read the source, and only
the answer of the source ends a reading.
-/

set_option autoImplicit false

namespace AlarmRelay

theorem Operation.isTick_iff (operation : Operation) :
    operation.isTick = true ↔ ∃ phase, operation = .tick phase := by
  cases operation <;> simp [isTick]

theorem Operation.isTick_carrying (operation : Operation) (fanOut : FanOut) :
    (operation.carrying fanOut).isTick = operation.isTick := by
  cases operation with
  | tick phase => cases phase <;> rfl
  | _ => rfl

theorem SourceError.failure?_failed (error : SourceError) :
    (ScanOutcome.failed error).failure? = some error.message := by
  cases error <;> rfl

theorem PanicPayload.failure?_panicked (payload : PanicPayload) :
    (ScanOutcome.panicked payload).failure? =
      some ("panicked: " ++ payload.message) := by
  cases payload <;> rfl

namespace Hub

/-! ## Holders of the shared side -/

theorem readers_forgotten (hub : Hub) (ids : List OperationId)
    (id : OperationId) (reads : id ∈ hub.registry.lock.readers)
    (kept : id ∉ ids) :
    id ∈ (ids.foldl forget hub).registry.lock.readers := by
  induction ids generalizing hub with
  | nil => exact reads
  | cons other rest ih =>
      simp only [List.mem_cons, not_or] at kept
      exact ih (hub.forget other)
        (FairLock.readers_leave _ other id reads kept.1) kept.2

/-- A holder of the shared side keeps it until it is gone or reads the source. -/
theorem readers_turn (hub : Hub) (event : HubEvent) (step : Progress)
    (id : OperationId) (turn : Turn hub step event)
    (reads : id ∈ hub.registry.lock.readers) :
    id ∈ step.hub.registry.lock.readers ∨ step.hub.operation? id = none ∨
      step.hub.operation? id = some (.tick .scanning) := by
  -- Where one operation is forgotten, it is this one or another.
  have left : ∀ (other : OperationId) (registry : Registry),
      registry.lock = hub.registry.lock →
      step.hub.Alike ({ hub with registry := registry }.forget other) →
        id ∈ step.hub.registry.lock.readers ∨ step.hub.operation? id = none := by
    intro other registry lock same
    by_cases here : id = other
    · right
      rw [hub.operation?_left step.hub registry other id same, if_pos here]
    · left
      rw [same.registry, forget_registry]
      exact FairLock.readers_leave _ other id (lock ▸ reads) here
  cases turn with
  | rests _ same idle unheard =>
      rw [same.registry]
      exact Or.inl reads
  | asks request same silent =>
      rw [same.registry]
      exact Or.inl (hub.begin_readers _ id reads)
  | stops loop owned same silent =>
      rw [same.registry]
      exact Or.inl (hub.begin_readers _ id reads)
  | ticks loop first last live registry operations names before after idle silent =>
      rw [registry]
      exact Or.inl (hub.begin_readers _ id reads)
  | answers _ other operation registry reply drives found answer same replied =>
      have lock := (hub.answer_registry other operation registry reply answer).1
      exact (left other registry lock same).imp_right Or.inl
  | fails other outcome message found same replied =>
      exact (left other hub.registry rfl same).imp_right Or.inl
  | scans _ other drives found held somebody same silent =>
      by_cases here : id = other
      · right
        right
        rw [hub.operation?_moved step.hub _ other id _ _ found same, if_pos here]
      · left
        rw [same.registry]
        exact FairLock.readers_leave _ other id reads here
  | fetches other alarms found same silent =>
      rw [same.registry]
      exact Or.inl (FairLock.readers_request _ other id .shared reads)
  | walks _ other operation next delivery drives found held before after same
      silent =>
      rw [same.registry]
      exact Or.inl reads
  | hears other operation next delivery listener rest report outcome found before
      after same silent =>
      rw [same.registry]
      exact Or.inl reads
  | drops other caller same silent =>
      exact (left other hub.registry rfl same).imp_right Or.inl
  | loses ids ticking same silent =>
      by_cases lost : id ∈ ids
      · right
        left
        rw [hub.operation?_lost step.hub ids id same, if_pos lost]
      · left
        rw [same.registry]
        exact hub.readers_forgotten ids id reads lost

/-! ## The answer of the source -/

/-- A list lets a tick go on, a failure is its end. -/
theorem answerScan_react (hub : Hub) (now : Instant) (id : OperationId)
    (scan : ScanOutcome) (step : Progress)
    (reacted : hub.react now (.answerScan id scan) = some step) :
    hub.operation? id = some (.tick .scanning) ∧
      ((∃ alarms, scan = .alarms alarms ∧ step.reply = none ∧
        step.hub.operation? id =
          some (.tick (.delivering alarms .awaitingLock))) ∨
      ∃ message, scan.failure? = some message ∧
        step.reply = some (.tick (.failed message)) ∧
          step.hub.operation? id = none) := by
  simp only [react] at reacted
  split at reacted
  · rename_i reading
    have found := (hub.isScanning_iff id).mp reading
    refine ⟨found, ?_⟩
    have gone : ∀ next : Hub, next = (hub.forget id).reclaim.1 →
        next.operation? id = none := by
      rintro next rfl
      rw [alike_operation? _ _ (alike_reclaim _), operation?_forget, if_pos rfl]
    cases scan with
    | alarms alarms =>
        left
        cases reacted
        refine ⟨alarms, rfl, by simp only [answerScan, found], ?_⟩
        simp only [answerScan, found]
        exact (hub.operation?_putOperation id id _).trans (by simp [found])
    | failed error =>
        right
        cases reacted
        simp only [answerScan, found]
        exact ⟨_, error.failure?_failed, rfl, gone _ rfl⟩
    | panicked payload =>
        right
        cases reacted
        simp only [answerScan, found]
        exact ⟨_, payload.failure?_panicked, rfl, gone _ rfl⟩
  · cases reacted

section

variable (hub : Hub) (now : Instant) (event : HubEvent) (step : Progress)
  (id : OperationId) (reacted : hub.react now event = some step)

include reacted

/-- A reading ends where the source answers. -/
theorem scanned_react (alarms : List Alarm) (fanOut : FanOut)
    (reading : hub.operation? id = some (.tick .scanning))
    (fetched : step.hub.operation? id =
      some (.tick (.delivering alarms fanOut))) :
    event = .answerScan id (.alarms alarms) := by
  rcases hub.fanOut_react now event step id _ (.snapshot alarms) fanOut rfl
    reacted fetched with
    ⟨before, past, found, carries⟩ | ⟨request, asked, carries⟩ |
      ⟨scanned, answered, same⟩
  · rw [reading] at found
    cases found
    cases carries
  · -- Whoever asks for something leaves all other operations as they are.
    subst asked
    simp only [react] at reacted
    split at reacted
    · cases reacted
    · cases reacted
      rw [hub.ask_hub request, operation?_begin, reading] at fetched
      cases fetched
  · cases same
    exact answered

/-- A tick goes to read the source from the lock. -/
theorem scans_held (lined : hub.Lined)
    (checks : hub.operation? id = some (.tick .checking))
    (scans : step.hub.operation? id = some (.tick .scanning)) :
    id ∈ hub.registry.lock.readers := by
  obtain ⟨gone, traffic⟩ := hub.turn_traffic event step lined.consistent
    (hub.react_turn now event step reacted)
  by_cases left : id ∈ gone
  · rcases traffic.granted id left _ checks rfl with dropped | reads | writes
    · obtain ⟨_, absent, _⟩ := (hub.mem_dropped event step id).mp dropped
      exact absurd ((step.hub.mem_inFlight id).mpr ⟨_, scans⟩) absent
    · exact reads
    · obtain ⟨operation, found, side⟩ := lined.entitled _
        (FairLock.mem_line_writer _ id writes)
      rw [checks] at found
      cases found
      cases side
  · obtain ⟨later, found, becomes⟩ := traffic.kept id left _ checks rfl
    rw [scans] at found
    cases found
    have side := Operation.becomes_lockSide _ _ becomes
    cases side

end

/-! ## Answers -/

/-- How a tick in some phase answers in an event. -/
inductive TickEnd (hub : Hub) (id : OperationId) :
    HubEvent → TickPhase → TickOutcome → Prop where
  /-- It has the lock and finds nobody. -/
  | skipped (event : HubEvent) (drives : hub.Drives event id)
      (reads : id ∈ hub.registry.lock.readers)
      (nobody : hub.registry.listeners = []) :
      TickEnd hub id event .checking .skipped
  | failed (scan : ScanOutcome) (message : String)
      (fault : scan.failure? = some message) :
      TickEnd hub id (.answerScan id scan) .scanning (.failed message)
  /-- It has called everybody. -/
  | delivered (event : HubEvent) (drives : hub.Drives event id)
      (alarms : List Alarm) (report : DispatchReport) :
      TickEnd hub id event (.delivering alarms (.calling [] report))
        (.delivered alarms.length report)

section

variable (hub : Hub) (now : Instant) (event : HubEvent) (step : Progress)
  (id : OperationId)

theorem driven_advance (drives : hub.Drives event id)
    (reacted : hub.react now event = some step) :
    hub.advance id = some step := by
  cases drives with
  | caller => exact reacted
  | loop loop _ ticking =>
      exact hub.loop_step_ticks now loop id step ticking reacted

/-- Whoever answers has taken its last step, or the source has answered it. -/
theorem returned_driven (reply : Reply)
    (reacted : hub.react now event = some step)
    (returned : .returned id reply ∈ hub.marks event step) :
    step.reply = some reply ∧
      (hub.Drives event id ∨ ∃ scan, event = .answerScan id scan) := by
  obtain ⟨current, lost, replied⟩ := hub.mem_returned event step id reply returned
  have gone := (step.hub.absent_iff id).mpr lost
  obtain ⟨operation, found⟩ := (hub.mem_inFlight id).mp current
  refine ⟨replied, ?_⟩
  -- Where some operation is forgotten, it is the one that is gone.
  have named : ∀ (other : OperationId) (registry : Registry),
      step.hub.Alike ({ hub with registry := registry }.forget other) →
        id = other := by
    intro other registry same
    rw [hub.operation?_left step.hub registry other id same] at gone
    split at gone
    · assumption
    · rw [gone] at found
      cases found
  have silent : step.reply ≠ none := by
    rw [replied]
    exact Option.some_ne_none reply
  cases hub.react_turn now event step reacted with
  | rests _ same idle unheard =>
      rw [alike_inFlight _ _ same] at lost
      exact absurd current lost
  | answers _ other answering registry told drives present answer same shown =>
      rw [named other registry same]
      exact Or.inl drives
  | fails other scan message present same shown =>
      rw [named other hub.registry same]
      exact Or.inr ⟨scan, rfl⟩
  | asks _ _ quiet | stops _ _ _ quiet | drops _ _ _ quiet
  | loses _ _ _ quiet | fetches _ _ _ _ quiet => exact absurd quiet silent
  | ticks _ _ _ _ _ _ _ _ _ _ quiet | scans _ _ _ _ _ _ _ quiet
  | walks _ _ _ _ _ _ _ _ _ _ _ quiet
  | hears _ _ _ _ _ _ _ _ _ _ _ _ quiet => exact absurd quiet silent

/-- A tick that answers by a step of its own found nobody or has called everybody. -/
theorem driven_tick (phase : TickPhase) (reply : Reply)
    (found : hub.operation? id = some (.tick phase))
    (drives : hub.Drives event id) (advanced : hub.advance id = some step)
    (replied : step.reply = some reply) :
    ∃ outcome, reply = .tick outcome ∧ TickEnd hub id event phase outcome := by
  cases phase with
  | checking =>
      cases hub.advance_cases id _ step found advanced with
      | answers _ registry told _ answer result shown =>
          rw [replied] at shown
          cases shown
          cases answer with
          | reads _ _ held read =>
              simp only [Operation.readReply?, Option.ite_none_right_eq_some,
                Option.some.injEq, List.isEmpty_iff] at read
              obtain ⟨nobody, rfl⟩ := read
              exact ⟨.skipped, rfl,
                .skipped event drives ((hub.holdsShared_iff id).mp held) nobody⟩
          | ends _ delivery report _ before reported => cases before
      | scans _ held somebody result silent =>
          rw [replied] at silent
          cases silent
      | walks _ next delivery _ held before after result silent =>
          rw [replied] at silent
          cases silent
  | scanning => simp [advance, found] at advanced
  | delivering alarms fanOut =>
      cases fanOut with
      | awaitingLock =>
          rw [hub.advance_awaiting id _ _ found rfl] at advanced
          split at advanced
          · cases advanced
            cases replied
          · cases advanced
      | calling pending report =>
          cases pending with
          | nil =>
              obtain ⟨signals, walked⟩ :=
                hub.advance_walked id _ _ found report rfl
              rw [walked] at advanced
              cases advanced
              cases replied
              exact ⟨_, rfl, .delivered event drives alarms report⟩
          | cons listener rest =>
              rw [hub.advance_calling id _ _ found listener rest report rfl]
                at advanced
              cases advanced

/-- A tick that answers answers for what it found. -/
theorem returned_tick (phase : TickPhase) (reply : Reply)
    (found : hub.operation? id = some (.tick phase))
    (reacted : hub.react now event = some step)
    (returned : .returned id reply ∈ hub.marks event step) :
    ∃ outcome, reply = .tick outcome ∧ TickEnd hub id event phase outcome := by
  obtain ⟨replied, drives | ⟨scan, rfl⟩⟩ :=
    hub.returned_driven now event step id reply reacted returned
  · exact hub.driven_tick event step id phase reply found drives
      (hub.driven_advance now event step id drives reacted) replied
  · obtain ⟨reading, ⟨alarms, _, silent, _⟩ | ⟨message, fault, shown, _⟩⟩ :=
      hub.answerScan_react now id scan step reacted
    · rw [replied] at silent
      cases silent
    · rw [reading] at found
      cases found
      rw [replied] at shown
      cases shown
      exact ⟨_, rfl, .failed scan message fault⟩

/-- Only ticks answer with the outcome of a tick. -/
theorem returned_outcome (outcome : TickOutcome)
    (reacted : hub.react now event = some step)
    (returned : .returned id (.tick outcome) ∈ hub.marks event step) :
    ∃ phase, hub.operation? id = some (.tick phase) := by
  obtain ⟨replied, drives | ⟨scan, rfl⟩⟩ :=
    hub.returned_driven now event step id _ reacted returned
  · have advanced := hub.driven_advance now event step id drives reacted
    obtain ⟨operation, found⟩ := hub.advance_operation id step advanced
    cases hub.advance_cases id operation step found advanced with
    | answers _ registry told _ answer result shown =>
        rw [replied] at shown
        cases shown
        cases answer with
        | reads _ _ held read =>
            cases operation with
            | tick phase => exact ⟨phase, found⟩
            | _ => cases read
        | ends _ delivery report _ before reported =>
            obtain ⟨cause, rfl⟩ | ⟨alarms, rfl, rfl⟩ :=
              operation.fanOut?_cases delivery _ before
            · obtain ⟨signals, walked⟩ :=
                hub.advance_walked id _ _ found report rfl
              rw [walked] at advanced
              cases advanced
              cases replied
            · exact ⟨_, found⟩
        | fails message => exact ⟨.scanning, found⟩
    | scans _ held somebody result silent =>
        rw [replied] at silent
        cases silent
    | walks _ next delivery _ held before after result silent =>
        rw [replied] at silent
        cases silent
  · exact ⟨.scanning, (hub.answerScan_react now id scan step reacted).1⟩

/-- A tick remains one, and nothing else becomes one. -/
theorem isTick_react (operation later : Operation)
    (reacted : hub.react now event = some step)
    (found : hub.operation? id = some operation)
    (after : step.hub.operation? id = some later) :
    later.isTick = operation.isTick := by
  have stays : ∀ current : Option Operation,
      step.hub.operation? id = current → current = some operation →
        later.isTick = operation.isTick := by
    rintro current same rfl
    rw [after] at same
    cases same
    rfl
  have left : ∀ (other : OperationId) (registry : Registry),
      step.hub.Alike ({ hub with registry := registry }.forget other) →
        later.isTick = operation.isTick := by
    intro other registry same
    have gone := hub.operation?_left step.hub registry other id same
    split at gone
    · rw [after] at gone
      cases gone
    · exact stays _ gone found
  have moved : ∀ (other : OperationId) (registry : Registry)
      (before next : Operation), hub.operation? other = some before →
      step.hub.Alike ({ hub with registry := registry }.putOperation other next) →
      next.isTick = before.isTick → later.isTick = operation.isTick := by
    intro other registry before next present same kind
    have here := hub.operation?_moved step.hub registry other id before next
      present same
    split at here
    · rename_i named
      rw [named, present] at found
      rw [after] at here
      cases found
      cases here
      exact kind
    · exact stays _ here found
  have begun : ∀ other : Operation,
      step.hub.operations = (hub.begin other).1.operations →
        later.isTick = operation.isTick := by
    intro other operations
    exact stays _ (hub.operation?_begun step.hub id other operations)
      (by rw [found, Option.some_or])
  cases hub.react_turn now event step reacted with
  | rests _ same idle unheard =>
      exact stays _ (alike_operation? _ _ same id) found
  | asks request same silent => exact begun _ same.operations
  | stops loop owned same silent => exact begun _ same.operations
  | ticks loop first last live registry operations names older newer idle silent =>
      exact begun _ operations
  | answers _ other answering registry reply drives present answer same replied =>
      exact left other registry same
  | fails other scan message present same replied =>
      exact left other hub.registry same
  | scans _ other drives present held somebody same silent =>
      exact moved other _ _ _ present same rfl
  | fetches other alarms present same silent =>
      exact moved other _ _ _ present same rfl
  | walks _ other before next delivery drives present held waits walking same
      silent =>
      have advanced := hub.driven_advance now event step other drives reacted
      rw [hub.advance_awaiting other before delivery present waits, if_pos held]
        at advanced
      cases advanced
      exact moved other hub.registry before _ present (alike_refl _)
        (before.isTick_carrying _)
  | hears other before next delivery listener rest report outcome present called
      calls same silent =>
      obtain ⟨signals, answered⟩ := hub.react_answerCall other before delivery
        present now outcome listener rest report called
      rw [answered] at reacted
      cases reacted
      exact moved other hub.registry before _ present (alike_refl _)
        (before.isTick_carrying _)
  | drops other caller same silent => exact left other hub.registry same
  | loses ids ticking same silent =>
      have gone := hub.operation?_lost step.hub ids id same
      split at gone
      · rw [after] at gone
        cases gone
      · exact stays _ gone found

/-! ## The log of readings -/

theorem readMarks_answers :
    ReadMark.answers id (hub.readMarks event step) =
      ReadMark.answers id event.readEnds := by
  simp [readMarks, ReadMark.answers, List.filterMap_map]

theorem readEnds_scan (scan : ScanOutcome) :
    ReadMark.answers id (HubEvent.answerScan id scan).readEnds = [scan] := by
  simp [HubEvent.readEnds, ReadMark.answers]

theorem readEnds_unanswered (other : ∀ scan, event ≠ .answerScan id scan) :
    ReadMark.answers id event.readEnds = [] := by
  cases event with
  | answerScan name scan =>
      have apart : name ≠ id := by
        rintro rfl
        exact other scan rfl
      simp [HubEvent.readEnds, ReadMark.answers, apart]
  | _ => rfl

/-- A reading begins once where a tick comes to read the source. -/
theorem readMarks_begun (next : step.hub.Consistent) :
    ReadMark.begun id (hub.readMarks event step) =
      if step.hub.isScanning id = true ∧ hub.isScanning id = false then 1
      else 0 := by
  have unended : ReadMark.began id ∉ event.readEnds := by
    cases event <;> simp [HubEvent.readEnds]
  have named : step.hub.isScanning id = true → id < step.hub.nextOperation := by
    intro reading
    exact next.named id ((step.hub.mem_inFlight id).mpr
      ⟨_, (step.hub.isScanning_iff id).mp reading⟩)
  have once : ((List.range step.hub.nextOperation).filter fun id =>
      step.hub.isScanning id && !hub.isScanning id).Nodup :=
    List.nodup_range.filter _
  unfold ReadMark.begun readMarks
  rw [List.count_append, List.count_eq_zero_of_not_mem unended, Nat.zero_add,
    List.count_map_of_injective _ _ (fun _ _ same => ReadMark.began.inj same),
    once.count]
  congr 1
  simp only [List.mem_filter, List.mem_range, Bool.and_eq_true,
    Bool.not_eq_true', eq_iff_iff]
  exact ⟨fun found => found.2, fun found => ⟨named found.1, found⟩⟩

end

end Hub
end AlarmRelay
