import AlarmRelay.Proofs.Hub.Serving

/-!
# Plays of scripts

Every play of a script hands out what the script says and answers as it says, and
every script can be played, whatever the listeners answer.
-/

set_option autoImplicit false

namespace AlarmRelay

/-! ## Calls of scripts -/

/-- The report of a fan-out to all members. -/
theorem DispatchReport.tally_report (members : List Listener)
    (outcomes : List CallOutcome)
    (all : outcomes.length = members.length) :
    DispatchReport.tally outcomes = ScriptCall.report members outcomes := by
  rw [DispatchReport.tally_eq, all]
  rfl

/-- What a call of a script is bound to do when it begins. -/
structure ScriptCall.Promised (call : ScriptCall) (members : List Listener)
    (prospect : Prospect) : Prop where
  calls : prospect.calls = call.handed members
  ends : prospect.ends = (call.handed members).length
  steps : prospect.steps ≤ members.length + 4
  leaves : prospect.members = call.members members
  reply : ∀ outcomes, outcomes.length = (call.handed members).length →
    prospect.reply outcomes = call.reply members outcomes

theorem ScriptCall.promised (call : ScriptCall) (members : List Listener) :
    call.Promised members
      (call.request.operation.prospect members call.scan) := by
  cases call with
  | subscribe listener =>
      refine ⟨rfl, rfl, ?_, rfl, fun _ _ => rfl⟩
      simp [request, Request.operation, Operation.prospect, Prospect.plain]
  | unsubscribe listener =>
      refine ⟨rfl, rfl, ?_, rfl, fun _ _ => rfl⟩
      simp [request, Request.operation, Operation.prospect, Prospect.plain]
  | publish event =>
      have length : (handed members (.publish event)).length =
          members.length := by
        cases event <;> simp [handed]
      refine ⟨?_, length.symm, ?_, rfl, ?_⟩
      · cases event <;> rfl
      · simp [request, Request.operation, Operation.prospect, FanOut.prospect]
      · intro outcomes all
        rw [length] at all
        simp only [request, Request.operation, Operation.prospect,
          FanOut.prospect, reply, DispatchReport.tally_report members outcomes all]
  | snapshot answered =>
      cases nobody : members.isEmpty with
      | true =>
          rw [List.isEmpty_iff.mp nobody]
          refine ⟨?_, ?_, ?_, rfl, fun _ _ => rfl⟩
          · cases answered <;> rfl
          · cases answered <;> rfl
          · exact Nat.le_add_left 1 3
      | false =>
          have prospect : (request (.snapshot answered)).operation.prospect
              members answered = (answered.prospect members).delayed := by
            simp [request, Request.operation, Operation.prospect, nobody]
          simp only [scan]
          rw [prospect]
          cases answered with
          | alarms alarms =>
              refine ⟨rfl, ?_, Nat.le_refl _, rfl, ?_⟩
              · simp [handed, ScanOutcome.prospect, Prospect.delayed,
                  FanOut.prospect]
              · intro outcomes all
                have every : outcomes.length = members.length := by
                  simpa [handed] using all
                simp only [ScanOutcome.prospect, Prospect.delayed,
                  FanOut.prospect, TickOutcome.deliveredReply, reply, nobody,
                  DispatchReport.tally_report members outcomes every]
                rfl
          | failed error =>
              refine ⟨rfl, rfl, ?_, rfl, ?_⟩
              · simp [ScanOutcome.prospect, Prospect.delayed, Prospect.plain]
              · intro outcomes all
                simp [ScanOutcome.prospect, Prospect.delayed, Prospect.plain,
                  reply, nobody]
          | panicked payload =>
              refine ⟨rfl, rfl, ?_, rfl, ?_⟩
              · simp [ScanOutcome.prospect, Prospect.delayed, Prospect.plain]
              · intro outcomes all
                simp [ScanOutcome.prospect, Prospect.delayed, Prospect.plain,
                  reply, nobody]

namespace Hub

/-- A call begins as the only operation of the hub. -/
theorem ask_alone (hub : Hub) (now : Instant) (call : ScriptCall)
    (resting : hub.Resting) :
    ∃ step, hub.react now (.ask call.request) = some step ∧
      step.hub.Alone hub.nextOperation call.request.operation ∧
      step.hub.registry.listeners = hub.registry.listeners ∧
      Mark.handed (hub.marks (.ask call.request) step) = [] ∧
      Mark.verdicts (hub.marks (.ask call.request) step) = [] ∧
      Mark.replies (hub.marks (.ask call.request) step) = [] := by
  refine ⟨⟨(hub.begin call.request.operation).1,
    (hub.ask call.request).2, none⟩, ?_, ?_, ?_, ?_, ?_, ?_⟩
  · simp only [react, resting.owned, ← hub.ask_hub call.request]
    rfl
  · have shared : FairLock.request .free hub.nextOperation .shared =
        ⟨[hub.nextOperation], none, []⟩ := rfl
    have exclusive : FairLock.request .free hub.nextOperation .exclusive =
        ⟨[], some hub.nextOperation, []⟩ := rfl
    constructor
    · simp [begin, resting.idle]
    · cases call <;>
        simp [begin, ScriptCall.request, Request.operation,
          Operation.firstLock, Operation.ownLock, Registry.request,
          resting.free, shared, exclusive]
    · exact resting.owned
    · exact resting.calm
  · exact hub.begin_listeners call.request.operation
  · rw [marks_handed]
    rfl
  · rw [marks_verdicts]
    rfl
  · rw [marks_replies]
    simp

theorem scripted_request (call : ScriptCall) :
    call.request.operation.Scripted := by
  cases call <;> trivial

/-- What a call of a script has done when it has answered. -/
structure Answered (hub : Hub) (call : ScriptCall) (journal : List Mark)
    (served : Hub) : Prop where
  resting : served.Resting
  members : served.registry.listeners = call.members hub.registry.listeners
  handed : Mark.handed journal = call.handed hub.registry.listeners
  ends : (Mark.verdicts journal).length = (Mark.handed journal).length
  replies : Mark.replies journal =
    [call.reply hub.registry.listeners (Mark.verdicts journal)]

/-- Where a call stands: it has answered, or it runs by itself. -/
theorem serving_stage (hub : Hub) (call : ScriptCall) (now : Instant)
    (events : Timeline) (midway : Hub) (resting : hub.Resting)
    (serving : hub.Serving call now events midway) :
    events.length ≤ hub.registry.listeners.length + 4 ∧
      (hub.Answered call (hub.journal ((now, .ask call.request) :: events))
          midway ∨
        ∃ operation, midway.Alone hub.nextOperation operation ∧
          operation.Scripted) := by
  obtain ⟨step, reacted, alone, listeners, noHanded, noVerdicts, noReplies⟩ :=
    hub.ask_alone now call resting
  obtain ⟨first, acted, onward⟩ := (run_cons _ _ _ _ _).mp serving.reached
  rw [reacted] at acted
  cases acted
  have promised := call.promised hub.registry.listeners
  -- From here on the events serve an operation that runs by itself.
  have stage := step.hub.stage_run midway hub.nextOperation call
    call.request.operation events alone (scripted_request call) serving.served
    onward
  have journal := hub.journal_cons now (.ask call.request) events step reacted
  cases stage with
  | underWay later scripted laterAlone same spends =>
      rw [listeners] at spends
      refine ⟨?_, Or.inr ⟨later, laterAlone, scripted⟩⟩
      have spent := spends.steps
      have bound := promised.steps
      omega
  | isOver rested fulfilled =>
      rw [listeners] at fulfilled
      have handed : Mark.handed (hub.journal
          ((now, .ask call.request) :: events)) =
            call.handed hub.registry.listeners := by
        rw [journal, Mark.handed_append, noHanded, List.nil_append,
          ← fulfilled.calls, promised.calls]
      have verdicts : Mark.verdicts (hub.journal
          ((now, .ask call.request) :: events)) =
            Mark.verdicts (step.hub.journal events) := by
        rw [journal, Mark.verdicts_append, noVerdicts, List.nil_append]
      have ends : (Mark.verdicts (step.hub.journal events)).length =
          (call.handed hub.registry.listeners).length := by
        rw [← fulfilled.ends, promised.ends]
      refine ⟨Nat.le_trans fulfilled.steps promised.steps, Or.inl ?_⟩
      constructor
      · exact rested
      · rw [← fulfilled.members, promised.leaves]
      · exact handed
      · rw [verdicts, handed, ends]
      · rw [verdicts, journal, Mark.replies_append, noReplies, List.nil_append,
          fulfilled.replies, promised.reply _ ends]

theorem serving_answered (hub : Hub) (call : ScriptCall) (now : Instant)
    (events : Timeline) (served : Hub) (resting : hub.Resting)
    (serving : hub.Serving call now events served)
    (answered : hub.nextOperation ∉ served.inFlight) :
    hub.Answered call (hub.journal ((now, .ask call.request) :: events))
      served := by
  rcases (hub.serving_stage call now events served resting serving).2 with
    isOver | ⟨operation, alone, _⟩
  · exact isOver
  · exact absurd (by simp [inFlight, alone.only]) answered

/-- However far a call has been served, it can be served to its end. -/
theorem serving_returns (hub : Hub) (call : ScriptCall) (now : Instant)
    (events : Timeline) (midway : Hub) (stream : Nat → CallOutcome)
    (resting : hub.Resting)
    (serving : hub.Serving call now events midway) :
    ∃ more served, hub.Serving call now (events ++ more) served ∧
      midway.run more = some served ∧
      hub.nextOperation ∉ served.inFlight ∧
      Mark.Heeds stream (midway.journal more) := by
  rcases (hub.serving_stage call now events midway resting serving).2 with
    isOver | ⟨operation, alone, scripted⟩
  · refine ⟨[], midway, ?_, rfl, ?_, rfl⟩
    · rw [List.append_nil]
      exact serving
    · simp [inFlight, isOver.resting.idle]
  · obtain ⟨more, served, onward, serves, rested, heeds⟩ :=
      midway.serves_to_end hub.nextOperation call operation now stream alone
        scripted
    refine ⟨more, served, ⟨?_, ?_⟩, onward, ?_, heeds⟩
    · rw [← List.cons_append]
      exact (run_append _ _ _ _).mpr ⟨midway, serving.reached, onward⟩
    · intro entry member
      rcases List.mem_append.mp member with before | after
      · exact serving.served entry before
      · exact serves entry after
    · simp [inFlight, rested.idle]

/-! ## Plays -/

/-- What a play of a script has done. -/
structure Played (hub : Hub) (script : Script) (journal : List Mark)
    (final : Hub) : Prop where
  resting : final.Resting
  members : final.registry.listeners = script.members hub.registry.listeners
  /-- It handed out exactly what the script says, in order. -/
  handed : Mark.handed journal = script.handed hub.registry.listeners
  ends : (Mark.verdicts journal).length = (Mark.handed journal).length
  replies : Mark.replies journal =
    script.replies hub.registry.listeners (Mark.verdicts journal)

theorem plays_played (hub final : Hub) (script : Script) (timeline : Timeline)
    (resting : hub.Resting) (plays : hub.Plays script timeline final) :
    hub.Played script (hub.journal timeline) final := by
  induction plays with
  | done hub => exact ⟨resting, rfl, rfl, rfl, rfl⟩
  | call hub call rest now events later served final serving answered onward
      ih =>
      have first := hub.serving_answered call now events served resting serving
        answered
      have others := ih first.resting
      have journal := hub.journal_append served _ later serving.reached
      have count : (call.handed hub.registry.listeners).length =
          (Mark.verdicts (hub.journal
            ((now, .ask call.request) :: events))).length := by
        rw [first.ends, first.handed]
      constructor
      · exact others.resting
      · rw [others.members, first.members]
        rfl
      · rw [journal, Mark.handed_append, first.handed, others.handed,
          first.members]
        rfl
      · rw [journal, Mark.verdicts_append, Mark.handed_append,
          List.length_append, List.length_append, first.ends, others.ends]
      · rw [journal, Mark.replies_append, Mark.verdicts_append, first.replies,
          others.replies, first.members]
        simp only [Script.replies, count, List.take_left', List.drop_left',
          List.singleton_append]

/-- Whatever the listeners answer, a script can be played. -/
theorem plays_exist (hub : Hub) (script : Script) (now : Instant)
    (stream : Nat → CallOutcome) (resting : hub.Resting) :
    ∃ timeline final, hub.Plays script timeline final ∧
      Mark.Heeds stream (hub.journal timeline) := by
  induction script generalizing hub stream with
  | nil => exact ⟨[], hub, .done hub, rfl⟩
  | cons call rest ih =>
      obtain ⟨step, reacted, _, _, _, noVerdicts, _⟩ :=
        hub.ask_alone now call resting
      have begun : hub.Serving call now [] step.hub := by
        refine ⟨(run_cons _ _ _ _ _).mpr ⟨step, reacted, rfl⟩, ?_⟩
        intro entry member
        cases member
      obtain ⟨events, served, serving, onward, answered, heeds⟩ :=
        hub.serving_returns call now [] step.hub stream resting begun
      rw [List.nil_append] at serving
      have first := hub.serving_answered call now events served resting serving
        answered
      have journal := hub.journal_cons now (.ask call.request) events step reacted
      have heedsFirst : Mark.Heeds stream
          (hub.journal ((now, .ask call.request) :: events)) := by
        rw [journal, Mark.Heeds, Mark.verdicts_append, noVerdicts,
          List.nil_append]
        exact heeds
      obtain ⟨later, final, plays, heedsRest⟩ := ih served
        (fun index => stream ((Mark.verdicts (hub.journal
          ((now, .ask call.request) :: events))).length + index)) first.resting
      refine ⟨(now, .ask call.request) :: events ++ later, final,
        .call hub call rest now events later served final serving answered plays,
        ?_⟩
      rw [hub.journal_append served _ later serving.reached]
      exact Mark.heeds_append stream _ _ heedsFirst heedsRest

end Hub

/-! ## Reports -/

/-- A report tells accepted calls from failed ones. -/
def DispatchReport.Sound (report : DispatchReport) : Prop :=
  report.failed ≤ report.attempted ∧
    report.delivered + report.failed = report.attempted

theorem DispatchReport.sound_count (members : List Listener)
    (outcomes : List CallOutcome) (all : outcomes.length ≤ members.length) :
    (ScriptCall.report members outcomes).Sound := by
  have failed : outcomes.countP CallOutcome.isFault ≤ members.length :=
    Nat.le_trans List.countP_le_length all
  exact ⟨failed, Nat.sub_add_cancel failed⟩

theorem ScriptCall.handed_length (members : List Listener) (call : ScriptCall) :
    (call.handed members).length ≤ members.length := by
  cases call with
  | subscribe => exact Nat.zero_le _
  | unsubscribe => exact Nat.zero_le _
  | publish event => cases event <;> simp [handed]
  | snapshot scan => cases scan <;> simp [handed]

theorem ScriptCall.reply_sound (members : List Listener)
    (outcomes : List CallOutcome) (call : ScriptCall) (report : DispatchReport)
    (all : outcomes.length ≤ members.length)
    (reported : (call.reply members outcomes).report? = some report) :
    report.Sound := by
  have sound := DispatchReport.sound_count members outcomes all
  cases call with
  | subscribe => cases reported
  | unsubscribe => cases reported
  | publish event =>
      cases reported
      exact sound
  | snapshot scan =>
      simp only [reply] at reported
      split at reported
      · cases reported
      · cases scan with
        | alarms alarms =>
            cases reported
            exact sound
        | failed error => cases reported
        | panicked payload => cases reported

theorem Script.replies_sound (before : List Listener)
    (outcomes : List CallOutcome) (script : Script) (answer : Reply)
    (report : DispatchReport)
    (member : answer ∈ script.replies before outcomes)
    (reported : answer.report? = some report) : report.Sound := by
  induction script generalizing before outcomes with
  | nil => cases member
  | cons call rest ih =>
      rcases List.mem_cons.mp member with here | there
      · rw [here] at reported
        refine call.reply_sound before _ report ?_ reported
        exact Nat.le_trans (List.length_take_le _ _) (call.handed_length before)
      · exact ih (call.members before) _ there

theorem Mark.received_eq (listener : Listener) (marks : List Mark) :
    received listener marks = (handed marks).filterMap fun call =>
      if call.1.isSame listener then some call.2 else none := by
  rw [received, handed, List.filterMap_filterMap]
  congr 1
  funext mark
  cases mark <;> rfl

end AlarmRelay
