import AlarmRelay.Proofs.Hub.Exclusion
import AlarmRelay.Proofs.Hub.Plays

/-!
# Faults of listeners stay where they are

A fan-out calls every registered listener once, in order and with one delivery,
whatever the listeners answer, and counts those that fail.  So no listener can
tell from what it is handed how the others answered.
-/

set_option autoImplicit false

namespace AlarmRelay.Hub

/-! ## Walks -/

/-- A fan-out that has called everybody answers in its next step. -/
theorem advance_ends (hub : Hub) (now : Instant) (id : OperationId)
    (operation : Operation) (delivery : Delivery) (report : DispatchReport)
    (found : hub.operation? id = some operation)
    (walked : operation.fanOut? = some (delivery, .calling [] report)) :
    ∃ step reply, hub.react now (.advance id) = some step ∧
      id ∉ step.hub.inFlight ∧ step.reply = some reply ∧
        reply.report? = some report := by
  obtain ⟨signals, advanced⟩ :=
    hub.advance_walked id operation delivery found report walked
  refine ⟨hub.conclude id signals (operation.fanOutReply report), _, advanced, ?_,
    rfl, operation.report?_fanOutReply report⟩
  rw [conclude_hub]
  simp [inFlight]

/-- The events by which the listeners of a walk answer and the walk ends. -/
def walkTimeline (now : Instant) (id : OperationId)
    (outcomes : List CallOutcome) : Timeline :=
  outcomes.map (fun outcome => (now, .answerCall id outcome)) ++
    [(now, .advance id)]

theorem walk_returns (hub : Hub) (now : Instant) (id : OperationId)
    (operation : Operation) (delivery : Delivery) (pending : List Listener)
    (report : DispatchReport) (outcomes : List CallOutcome)
    (found : hub.operation? id = some operation)
    (walks : operation.fanOut? = some (delivery, .calling pending report))
    (all : outcomes.length = pending.length) :
    ∃ final reply, hub.run (walkTimeline now id outcomes) = some final ∧
      id ∉ final.inFlight ∧
      .returned id reply ∈ hub.journal (walkTimeline now id outcomes) ∧
      reply.report? = some (outcomes.foldl .record report) := by
  induction outcomes generalizing hub operation pending report with
  | nil =>
      rw [List.length_nil] at all
      rw [List.length_eq_zero_iff.mp all.symm] at walks
      obtain ⟨step, reply, reacted, gone, replied, reported⟩ :=
        hub.advance_ends now id operation delivery report found walks
      refine ⟨step.hub, reply, ?_, gone, ?_, reported⟩
      · exact (run_singleton _ _ _ _).mpr ⟨step, reacted, rfl⟩
      · have current := (hub.mem_inFlight id).mpr ⟨operation, found⟩
        have journal := hub.journal_cons now (.advance id) [] step reacted
        have marked := (hub.mem_marks (.advance id) step (.returned id reply)).mpr
          (Or.inr (Or.inl ⟨id, current, gone, by rw [replied]; rfl⟩))
        have shown : hub.journal (walkTimeline now id []) =
            hub.marks (.advance id) step ++ step.hub.journal [] := journal
        rw [shown]
        exact List.mem_append_left _ marked
  | cons outcome rest ih =>
      cases pending with
      | nil => cases all
      | cons listener others =>
          obtain ⟨signals, reacted⟩ := hub.react_answerCall id operation delivery
            found now outcome listener others report walks
          have next : (hub.putOperation id (operation.carrying
              (.calling others (report.record outcome)))).operation? id =
                some (operation.carrying
                  (.calling others (report.record outcome))) := by
            rw [operation?_putOperation, if_pos rfl, found]
            rfl
          obtain ⟨final, reply, reached, gone, returned, reported⟩ :=
            ih _ _ others (report.record outcome) next
              (operation.fanOut?_carrying delivery _ _ walks) (Nat.succ.inj all)
          have split : walkTimeline now id (outcome :: rest) =
              (now, .answerCall id outcome) :: walkTimeline now id rest := rfl
          refine ⟨final, reply, ?_, gone, ?_, reported⟩
          · rw [split]
            exact (run_cons _ _ _ _ _).mpr ⟨_, reacted, reached⟩
          · rw [split, hub.journal_cons now _ _ _ reacted]
            exact List.mem_append_right _ returned

/-! ## Runs of all kinds -/

/-- What every fan-out of a run does, whatever else is under way. -/
structure Delivers (hub : Hub) (journal : List Mark) : Prop where
  /-- If it answers, it has called every listener over which it was admitted, once,
  in order and with one delivery, every call has ended, and the report counts
  them. -/
  exact : ∀ id reply report, .returned id reply ∈ journal →
    reply.report? = some report →
      ∃ listeners delivery,
        Mark.admission? id journal = some listeners ∧
        Mark.calls id journal = (listeners.map fun listener =>
          (listener, delivery)) ∧
        Mark.endedCalls id journal = Mark.calls id journal ∧
        report.attempted = listeners.length ∧
        report.failed =
          (Mark.outcomes id journal).countP CallOutcome.isFault ∧
        report.Sound
  /-- The delivery is the alarm or the keys of the event. -/
  payload : ∀ id event,
    .requested id (Request.publish event).operation ∈ journal →
      ∀ call ∈ Mark.calls id journal,
        call.2 = match event with
          | .content _ alarm => .upsert alarm
          | .deleted alarm reductionKey => .delete alarm reductionKey
  /-- Once it walks, it answers when its listeners have, whatever they say. -/
  returns : ∀ id operation delivery pending report,
    hub.operation? id = some operation →
      operation.fanOut? = some (delivery, .calling pending report) →
        ∀ now outcomes, outcomes.length = pending.length →
          ∃ final reply, hub.run (walkTimeline now id outcomes) = some final ∧
            id ∉ final.inFlight ∧
            .returned id reply ∈ hub.journal (walkTimeline now id outcomes) ∧
            reply.report? = some (outcomes.foldl .record report)

theorem delivers_run (config : HubConfig) (timeline : Timeline) (hub : Hub)
    (reached : (create config).run timeline = some hub) :
    hub.Delivers ((create config).journal timeline) := by
  have start := consistent_create config
  have nothing := told_create config
  obtain ⟨_, told⟩ := (create config).told_run hub timeline [] start nothing
    reached
  rw [List.nil_append] at told
  have settled := settled_run config timeline hub reached
  refine {
    exact := ?_
    payload := ?_
    returns := fun id operation delivery pending report found walks now outcomes
      all => hub.walk_returns now id operation delivery pending report outcomes
        found walks all }
  · intro id reply report returned reported
    obtain ⟨counted, listeners, delivery, admitted, calls⟩ :=
      told.complete id reply report returned reported
    obtain ⟨before, after, split⟩ := List.append_of_mem returned
    obtain ⟨ended, noCall, noEnd⟩ := (create config).returned_after_calls hub
      timeline before after id reply start nothing reached split
    have every : Mark.endedCalls id ((create config).journal timeline) =
        Mark.calls id ((create config).journal timeline) := by
      have callsHere : Mark.calls id (.returned id reply :: after) = [] := noCall
      have endsHere : Mark.endings id (.returned id reply :: after) = [] := noEnd
      rw [split, Mark.endedCalls_append, Mark.calls_append, ended, callsHere,
        Mark.endedCalls, endsHere]
      rfl
    have length : (Mark.outcomes id ((create config).journal timeline)).length =
        listeners.length := by
      have same := congrArg List.length every
      rw [calls] at same
      simpa [Mark.endedCalls, Mark.outcomes] using same
    rw [DispatchReport.tally_report listeners _ length] at counted
    subst counted
    exact ⟨listeners, delivery, admitted, calls, every, rfl, rfl,
      DispatchReport.sound_count listeners _ (Nat.le_of_eq length)⟩
  · intro id event requested call member
    have same := settled.handed id _ _ _ requested call member
    cases event <;> exact same

/-! ## Scripts -/

/-- What the scripts of a hub do, whatever the listeners answer. -/
structure Isolates (hub : Hub) : Prop where
  /-- Every play hands out what the script says, to every listener once and in
  order, and answers as the script says. -/
  exact : ∀ script timeline final, hub.Plays script timeline final →
    hub.Played script (hub.journal timeline) final
  /-- Its reports never count more failures than calls. -/
  sound : ∀ script timeline final, hub.Plays script timeline final →
    ∀ reply ∈ Mark.replies (hub.journal timeline),
      ∀ report, reply.report? = some report → report.Sound
  /-- No call is served forever, and however far it has been served, it can be
  served to its end. -/
  returns : ∀ call now events midway, hub.Serving call now events midway →
    events.length ≤ hub.registry.listeners.length + 4 ∧
      ∀ stream, ∃ more served,
        hub.Serving call now (events ++ more) served ∧
        midway.run more = some served ∧
        hub.nextOperation ∉ served.inFlight ∧
        Mark.Heeds stream (midway.journal more)
  /-- Every script can be played to its end. -/
  playable : ∀ script stream, ∃ timeline final,
    hub.Plays script timeline final ∧ Mark.Heeds stream (hub.journal timeline)
  /-- Two plays of one script hand every listener the same deliveries. -/
  isolated : ∀ script first second left right listener,
    hub.Plays script first left → hub.Plays script second right →
      Mark.received listener (hub.journal first) =
        Mark.received listener (hub.journal second)

theorem isolates_resting (hub : Hub) (resting : hub.Resting) :
    hub.Isolates where
  exact := fun script timeline final plays =>
    hub.plays_played final script timeline resting plays
  sound := by
    intro script timeline final plays reply member report reported
    have played := hub.plays_played final script timeline resting plays
    rw [played.replies] at member
    exact script.replies_sound _ _ reply report member reported
  returns := by
    intro call now events midway serving
    refine ⟨(hub.serving_stage call now events midway resting serving).1, ?_⟩
    intro stream
    exact hub.serving_returns call now events midway stream resting serving
  playable := fun script stream => hub.plays_exist script ⟨0⟩ stream resting
  isolated := by
    intro script first second left right listener firstPlay secondPlay
    have one := hub.plays_played left script first resting firstPlay
    have other := hub.plays_played right script second resting secondPlay
    rw [Mark.received_eq, Mark.received_eq, one.handed, other.handed]

/-- Every fan-out of every run reaches everybody, and in scripts no listener sees
how the others answered. -/
theorem listener_faults_stay_isolated (config : HubConfig)
    (timeline : Timeline) (hub : Hub)
    (reached : (create config).run timeline = some hub) :
    hub.Delivers ((create config).journal timeline) ∧
      (hub.operations = [] → hub.closed = false → hub.Isolates) := by
  refine ⟨delivers_run config timeline hub reached, ?_⟩
  intro idle owned
  have consistent := consistent_run config timeline hub reached
  exact hub.isolates_resting (hub.resting_of_consistent consistent idle owned)

/-- Two listeners, the first of which panics over a deletion. -/
def faultyTimeline : Timeline :=
  [(⟨0⟩, .ask (.subscribe ⟨1, "first"⟩)), (⟨0⟩, .advance 0),
    (⟨0⟩, .ask (.subscribe ⟨2, "second"⟩)), (⟨0⟩, .advance 1),
    (⟨1⟩, .ask (.publish (.deleted 7 "disk"))), (⟨1⟩, .advance 2),
    (⟨2⟩, .answerCall 2 (.panicked .other)), (⟨3⟩, .answerCall 2 .accepted),
    (⟨3⟩, .advance 2)]

theorem listener_faults_stay_isolated_panicked :
    ∃ hub, (create .standard).run faultyTimeline = some hub ∧
      .returned 2 (.report ⟨2, 1⟩) ∈
        (create .standard).journal faultyTimeline ∧
      hub.Delivers ((create .standard).journal faultyTimeline) ∧
        hub.Isolates := by
  obtain ⟨delivers, isolates⟩ :=
    listener_faults_stay_isolated .standard faultyTimeline _ rfl
  exact ⟨_, rfl, by decide, delivers, isolates rfl rfl⟩

end AlarmRelay.Hub
