import AlarmRelay.Proofs.Hub.Roster
import AlarmRelay.Proofs.Hub.TickStep
import AlarmRelay.Proofs.Metrics

/-!
# The count of ticks

The outcome of a tick is counted in the event in which the tick answers with it, and
nothing is counted in any other event, whatever else a hub measures.
-/

set_option autoImplicit false

namespace AlarmRelay

namespace Signal

theorem tickLabels_append (first second : List Signal) :
    tickLabels (first ++ second) = tickLabels first ++ tickLabels second := by
  simp [tickLabels]

/-- Whatever is counted for a tick is booked. -/
theorem tickLabels_booked (signals : List Signal) :
    tickLabels (booked signals) = tickLabels signals := by
  rw [tickLabels, tickLabels, booked, List.filterMap_filter]
  congr 1
  funext signal
  cases signal with
  | log record => simp
  | metric change => cases change <;> rfl

theorem tickLabels_unbooked (signals : List Signal)
    (unbooked : booked signals = []) : tickLabels signals = [] := by
  rw [← tickLabels_booked, unbooked]
  rfl

theorem count_tickLabels (signals : List Signal) (label : String) :
    (tickLabels signals).count label =
      signals.count (.metric (.tick label)) := by
  induction signals with
  | nil => rfl
  | cons signal rest ih =>
      cases signal with
      | log record => simpa [tickLabels] using ih
      | metric change =>
          cases change with
          | tick other => simpa [tickLabels, List.count_cons] using ih
          | _ => simpa [tickLabels] using ih

end Signal

theorem TickOutcome.label_counts (outcome : TickOutcome) (label : String) :
    (outcome.label == label) = outcome.counts label := by
  cases outcome <;> exact BEq.comm

/-- The outcome that an answer counts as, if it is that of a tick. -/
def Reply.tickLabels (reply : Option Reply) : List String :=
  ((reply.bind Reply.outcome?).map TickOutcome.label).toList

namespace Hub

theorem conclude_labels (hub : Hub) (id : OperationId) (signals : List Signal)
    (reply : Reply) :
    Signal.tickLabels (hub.conclude id signals reply).signals =
      Signal.tickLabels signals := by
  have whole : (hub.conclude id signals reply).signals =
      signals ++ (hub.forget id).reclaim.2 := rfl
  rw [whole, Signal.tickLabels_append,
    Signal.tickLabels_unbooked _ (reclaim_unbooked _), List.append_nil]

theorem advance_labels (hub : Hub) (id : OperationId) (step : Progress)
    (advanced : hub.advance id = some step) :
    Signal.tickLabels step.signals = Reply.tickLabels step.reply := by
  obtain ⟨operation, found⟩ := hub.advance_operation id step advanced
  unfold advance at advanced
  rw [found] at advanced
  cases operation with
  | add listener =>
      dsimp only at advanced
      split at advanced
      · cases advanced
        rw [conclude_labels]
        unfold Registry.addSignals
        split <;> rfl
      · cases advanced
  | remove listener =>
      dsimp only at advanced
      split at advanced
      · cases advanced
        rw [conclude_labels]
        unfold Registry.removeSignals
        split <;> rfl
      · cases advanced
  | count | isEmpty | listeners =>
      dsimp only at advanced
      split at advanced
      · cases advanced
        rw [conclude_labels]
        rfl
      · cases advanced
  | borrow => cases advanced
  | deliver delivery cause fanOut =>
      dsimp only at advanced
      split at advanced
      · cases advanced
      · cases advanced
        rfl
      · cases advanced
        rw [conclude_labels]
        rfl
  | tick phase =>
      cases phase with
      | checking =>
          dsimp only at advanced
          split at advanced
          · split at advanced
            · cases advanced
              rw [conclude_labels]
              rfl
            · cases advanced
              rfl
          · cases advanced
      | scanning => cases advanced
      | delivering alarms fanOut =>
          dsimp only at advanced
          split at advanced
          · cases advanced
          · cases advanced
            rfl
          · cases advanced
            rw [conclude_labels]
            rfl
  | awaitExit loop =>
      dsimp only at advanced
      split at advanced
      · cases advanced
        rw [conclude_labels]
        rfl
      · cases advanced
        rw [conclude_labels]
        rfl
      · cases advanced

theorem answerCall_labels (hub : Hub) (id : OperationId)
    (outcome : CallOutcome) :
    Signal.tickLabels (hub.answerCall id outcome).2 = [] := by
  have called : ∀ delivery cause fanOut,
      Signal.tickLabels (FanOut.answer delivery cause outcome fanOut).2 =
        [] := by
    intro delivery cause fanOut
    unfold FanOut.answer FanOut.callSignals
    split
    · dsimp only
      split <;> rfl
    · rfl
  unfold answerCall
  split
  · rfl
  · rename_i operation _
    cases operation with
    | deliver delivery cause fanOut => exact called delivery cause fanOut
    | tick phase =>
        cases phase with
        | delivering alarms fanOut => exact called _ _ fanOut
        | _ => rfl
    | _ => rfl

theorem advanceLoop_labels (hub : Hub) (now : Instant) (loop : LoopId)
    (result : Hub × List Signal)
    (advanced : hub.advanceLoop now loop = some result) :
    Signal.tickLabels result.2 = Reply.tickLabels (hub.loopReply? loop) := by
  unfold advanceLoop at advanced
  split at advanced
  · cases advanced
  · rename_i entry present
    obtain ⟨cancelled, phase⟩ := entry
    cases phase with
    | waiting previous =>
        have still : hub.loopReply? loop = none := by
          simp [loopReply?, loopTick?, present]
        rw [still]
        dsimp only at advanced
        split at advanced
        · split at advanced
          · cases advanced
            exact Signal.tickLabels_unbooked _
              (hub.finishLoop_unbooked loop .panicked)
          · cases advanced
            rfl
        · cases advanced
    | idle origin ticks =>
        have still : hub.loopReply? loop = none := by
          simp [loopReply?, loopTick?, present]
        rw [still]
        dsimp only at advanced
        split at advanced
        · cases advanced
          exact Signal.tickLabels_unbooked _
            (hub.finishLoop_unbooked loop .exited)
        · split at advanced
          · cases advanced
            rfl
          · cases advanced
    | ticking origin ticks operation =>
        dsimp only at advanced
        obtain ⟨step, stepped, same⟩ := Option.map_eq_some_iff.mp advanced
        cases same
        have replies : hub.loopReply? loop = step.reply := by
          simp [loopReply?, loopTick?, present, stepped]
        rw [replies]
        exact hub.advance_labels operation step stepped
    | finished result => cases advanced

theorem answerScan_labels (hub : Hub) (id : OperationId)
    (outcome : ScanOutcome)
    (scanning : hub.operation? id = some (.tick .scanning)) :
    Signal.tickLabels (hub.answerScan id outcome).signals =
      Reply.tickLabels (hub.answerScan id outcome).reply := by
  simp only [answerScan, scanning]
  cases outcome with
  | alarms alarms => rfl
  | failed error | panicked payload =>
      dsimp only [failTick]
      rw [conclude_labels]
      rfl

/-- The outcome that is counted in an event is the one that is answered. -/
theorem react_labels (hub : Hub) (now : Instant) (event : HubEvent)
    (step : Progress) (reacted : hub.react now event = some step) :
    Signal.tickLabels step.signals = Reply.tickLabels step.reply := by
  cases event with
  | ask request =>
      simp only [react] at reacted
      split at reacted
      · cases reacted
      · cases reacted
        cases request <;> rfl
  | start inRuntime =>
      simp only [react, start] at reacted
      split at reacted
      · cases reacted
      · split at reacted
        · cases reacted
          rfl
        · rename_i next loop signals started
          cases reacted
          split at started
          · cases started
            rfl
          · split at started
            · cases started
            · cases started
              rfl
  | stop =>
      simp only [react] at reacted
      split at reacted
      · cases reacted
      · split at reacted <;> cases reacted <;> rfl
  | advance id => exact hub.advance_labels id step reacted
  | answerCall id outcome =>
      simp only [react] at reacted
      split at reacted
      · cases reacted
      · cases reacted
        exact hub.answerCall_labels id outcome
  | answerScan id outcome =>
      simp only [react] at reacted
      split at reacted
      · rename_i scanning
        cases reacted
        exact hub.answerScan_labels id outcome
          ((hub.isScanning_iff id).mp scanning)
      · cases reacted
  | abandon id =>
      simp only [react] at reacted
      split at reacted
      · cases reacted
        exact Signal.tickLabels_unbooked _ (hub.abandon_unbooked id)
      · cases reacted
  | advanceLoop loop =>
      simp only [react] at reacted
      obtain ⟨result, advanced, rfl⟩ := Option.map_eq_some_iff.mp reacted
      exact hub.advanceLoop_labels now loop result advanced
  | loseRuntime =>
      cases reacted
      exact Signal.tickLabels_unbooked _ hub.loseRuntime_loses.2
  | close =>
      simp only [react] at reacted
      split at reacted
      · cases reacted
      · cases reacted
        exact Signal.tickLabels_unbooked _ (reclaim_unbooked _)

/-! ## Who answered -/

section

variable (hub : Hub) (now : Instant) (event : HubEvent) (step : Progress)

theorem marks_tickOutcomes :
    Mark.tickOutcomes (hub.marks event step) =
      (hub.inFlight.filter fun id => !step.hub.inFlight.contains id).filterMap
        fun id => (step.reply.bind Reply.outcome?).map fun outcome =>
          (id, outcome) := by
  have ended : Mark.tickOutcomes (hub.endMarks event) = [] := by
    cases event <;> simp [endMarks, Mark.tickOutcomes, List.filterMap_map]
  rw [Mark.tickOutcomes] at ended ⊢
  rw [marks_filterMap, ended]
  cases replied : step.reply with
  | none => simp
  | some reply => cases reply <;> simp [Reply.outcome?]

/-- An event that takes no operation on answers for no tick, unless it is an answer
of the source. -/
theorem idle_untold (reacted : hub.react now event = some step)
    (idle : hub.subject? event = none)
    (other : ∀ id scan, event ≠ .answerScan id scan) :
    step.reply.bind Reply.outcome? = none := by
  cases event with
  | ask request | close =>
      simp only [react] at reacted
      split at reacted
      · cases reacted
      · cases reacted
        rfl
  | start inRuntime | stop =>
      simp only [react] at reacted
      split at reacted
      · cases reacted
      · split at reacted <;> cases reacted <;> rfl
  | advance id => cases idle
  | answerCall id outcome => cases idle
  | answerScan id scan => exact absurd rfl (other id scan)
  | abandon id =>
      simp only [react] at reacted
      split at reacted
      · cases reacted
        rfl
      · cases reacted
  | advanceLoop loop =>
      simp only [react] at reacted
      obtain ⟨result, advanced, rfl⟩ := Option.map_eq_some_iff.mp reacted
      have between : hub.loopTick? loop = none := idle
      simp [loopReply?, between]
  | loseRuntime =>
      cases reacted
      rfl

/-- An event that answers for a tick ends one operation and no other. -/
theorem outcome_forgets (outcome : TickOutcome)
    (reacted : hub.react now event = some step)
    (replied : step.reply = some (.tick outcome)) :
    ∃ id ∈ hub.inFlight, ∃ registry : Registry,
      step.hub.Alike ({ hub with registry := registry }.forget id) := by
  cases hub.react_turn now event step reacted with
  | rests _ same idle unheard =>
      by_cases scanned : ∃ id scan, event = .answerScan id scan
      · obtain ⟨id, scan, rfl⟩ := scanned
        obtain ⟨found, ⟨alarms, _, silent, _⟩ | ⟨message, _, _, gone⟩⟩ :=
          hub.answerScan_react now id scan step reacted
        · rw [replied] at silent
          cases silent
        · rw [alike_operation? _ _ same, found] at gone
          cases gone
      · have untold := hub.idle_untold now event step reacted idle
          fun id scan same => scanned ⟨id, scan, same⟩
        rw [replied] at untold
        cases untold
  | answers _ id operation registry reply drives found answer same shown =>
      exact ⟨id, (hub.mem_inFlight id).mpr ⟨operation, found⟩, registry, same⟩
  | fails id scan message found same shown =>
      exact ⟨id, (hub.mem_inFlight id).mpr ⟨_, found⟩, hub.registry, same⟩
  | asks _ _ silent | stops _ _ _ silent | drops _ _ _ silent
  | loses _ _ _ silent | fetches _ _ _ _ silent =>
      rw [silent] at replied
      cases replied
  | ticks _ _ _ _ _ _ _ _ _ _ silent | scans _ _ _ _ _ _ _ silent
  | walks _ _ _ _ _ _ _ _ _ _ _ silent
  | hears _ _ _ _ _ _ _ _ _ _ _ _ silent =>
      rw [silent] at replied
      cases replied

theorem gone_single (id : OperationId) (distinct : hub.inFlight.Nodup)
    (member : id ∈ hub.inFlight) (registry : Registry)
    (same : step.hub.Alike ({ hub with registry := registry }.forget id)) :
    (hub.inFlight.filter fun other => !step.hub.inFlight.contains other) =
      [id] := by
  have left : step.hub.inFlight =
      hub.inFlight.filter fun other => other != id := by
    rw [alike_inFlight _ _ same, inFlight_forget]
    rfl
  have only : ∀ other ∈ hub.inFlight,
      (!step.hub.inFlight.contains other) = (other == id) := by
    intro other present
    by_cases here : other = id <;> simp [left, here, present]
  rw [List.filter_congr only, List.filter_beq, distinct.count, if_pos member]
  rfl

/-- What an event counts are the outcomes with which ticks answer in it. -/
theorem labels_marks (distinct : hub.inFlight.Nodup)
    (reacted : hub.react now event = some step) :
    Signal.tickLabels step.signals =
      (Mark.tickOutcomes (hub.marks event step)).map
        fun entry => entry.2.label := by
  rw [hub.react_labels now event step reacted, marks_tickOutcomes]
  cases told : step.reply.bind Reply.outcome? with
  | none => simp [Reply.tickLabels, told]
  | some outcome =>
      have replied : step.reply = some (.tick outcome) := by
        obtain ⟨reply, shown, same⟩ := Option.bind_eq_some_iff.mp told
        cases reply <;> cases same
        exact shown
      obtain ⟨id, member, registry, same⟩ :=
        hub.outcome_forgets now event step outcome reacted replied
      rw [hub.gone_single step id distinct member registry same]
      simp [Reply.tickLabels, told]

theorem outcomes_nodup (distinct : hub.inFlight.Nodup) :
    ((Mark.tickOutcomes (hub.marks event step)).map Prod.fst).Nodup := by
  rw [marks_tickOutcomes]
  cases step.reply.bind Reply.outcome? with
  | none => simp
  | some outcome =>
      simpa [Function.comp_def] using distinct.filter _

end

/-! ## Runs -/

theorem mem_tickOutcomes (id : OperationId) (outcome : TickOutcome)
    (journal : List Mark) :
    (id, outcome) ∈ Mark.tickOutcomes journal ↔
      .returned id (.tick outcome) ∈ journal := by
  simp only [Mark.tickOutcomes, List.mem_filterMap]
  constructor
  · rintro ⟨mark, member, shown⟩
    split at shown
    · cases shown
      exact member
    · cases shown
  · intro member
    exact ⟨_, member, rfl⟩

theorem tickOutcomes_append (first second : List Mark) :
    Mark.tickOutcomes (first ++ second) =
      Mark.tickOutcomes first ++ Mark.tickOutcomes second := by
  simp [Mark.tickOutcomes]

/-- Along every run the outcomes that are counted are those with which ticks
answered, in order. -/
theorem labels_run (config : HubConfig) (timeline : Timeline) (hub : Hub)
    (reached : (create config).run timeline = some hub) :
    Signal.tickLabels ((create config).signals timeline) =
      (Mark.tickOutcomes ((create config).journal timeline)).map
        fun entry => entry.2.label := by
  refine reached_induction
    (motive := fun past _ =>
      Signal.tickLabels ((create config).signals past) =
        (Mark.tickOutcomes ((create config).journal past)).map
          fun entry => entry.2.label) ?_ rfl reached
  intro past middle now event step before counted reacted
  have names := (rostered_run config past middle before).2.1
  rw [signals, journal, observe_snoc _ _ middle _ _ _ step before reacted,
    observe_snoc _ _ middle _ _ _ step before reacted,
    Signal.tickLabels_append, tickOutcomes_append, List.map_append,
    ← middle.labels_marks now event step names reacted]
  exact congrArg (· ++ Signal.tickLabels step.signals) counted

/-- No tick answers twice. -/
theorem outcomes_run (config : HubConfig) (timeline : Timeline) (hub : Hub)
    (reached : (create config).run timeline = some hub) :
    ((Mark.tickOutcomes ((create config).journal timeline)).map
      Prod.fst).Nodup := by
  refine reached_induction
    (motive := fun past _ =>
      ((Mark.tickOutcomes ((create config).journal past)).map
        Prod.fst).Nodup) ?_ List.nodup_nil reached
  intro past middle now event step before single reacted
  have names := (rostered_run config past middle before).2.1
  have told := (told_run (create config) middle past [] (consistent_create config)
    (told_create config) before).2
  rw [journal, observe_snoc _ _ middle _ _ _ step before reacted,
    tickOutcomes_append, List.map_append]
  refine single.append (middle.outcomes_nodup event step names) ?_
  -- Whoever answered before is not in flight any more.
  intro id old new
  obtain ⟨⟨_, outcome⟩, earlier, rfl⟩ := List.mem_map.mp old
  obtain ⟨⟨_, later⟩, here, rfl⟩ := List.mem_map.mp new
  have absent := (told.isOver _ (Or.inr ⟨_, (mem_tickOutcomes _ _ _).mp
    earlier⟩)).1
  have present := (middle.mem_returned event step _ _
    ((mem_tickOutcomes _ _ _).mp here)).1
  exact (middle.absent_iff _).mp absent present

/-- The ledger counts every tick that answered under its outcome, and no others. -/
theorem ticks_counted (config : HubConfig) (timeline : Timeline) (hub : Hub)
    (reached : (create config).run timeline = some hub)
    (ledger : AlarmRelay.Ledger) (label : String) :
    (ledger.recordAll (Signal.metrics
        ((create config).signals timeline))).ticks.count label =
      ledger.ticks.count label +
        (Mark.tickOutcomes ((create config).journal timeline)).countP
          fun entry => entry.2.counts label := by
  rw [AlarmRelay.Ledger.ticks_recordAll, Signal.count_metrics,
    ← Signal.count_tickLabels,
    labels_run config timeline hub reached, List.count, List.countP_map]
  congr 2
  funext entry
  exact entry.2.label_counts label

end Hub
end AlarmRelay
