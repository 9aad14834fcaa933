import AlarmRelay.Producer.Shift
import AlarmRelay.Proofs.Hub.Plays

/-!
# Calls end in the order in which they begin

While an operation is served by itself, the calls that have ended are those that
have begun, in the same order, up to the one that is under way.  So a play hears of
exactly the calls that it made, and a listener that accepts every call accepts what
the script hands to it.
-/

set_option autoImplicit false

namespace AlarmRelay

namespace Mark

/-- Every call that ended, in order: who had been handed what. -/
def heard (marks : List Mark) : List (Listener × Delivery) :=
  marks.filterMap fun
    | .ended _ listener delivery _ => some (listener, delivery)
    | _ => none

theorem heard_append (first second : List Mark) :
    heard (first ++ second) = heard first ++ heard second := by
  simp [heard]

/-- The part of a listener in some calls. -/
def addressed (listener : Listener) (calls : List (Listener × Delivery)) :
    List Delivery :=
  calls.filterMap fun call =>
    if call.1.isSame listener then some call.2 else none

theorem accepts_append (listener : Listener) (first second : List Mark) :
    Accepts listener (first ++ second) ↔
      Accepts listener first ∧ Accepts listener second := by
  constructor
  · intro both
    exact ⟨fun id other delivery outcome member =>
        both id other delivery outcome (List.mem_append_left _ member),
      fun id other delivery outcome member =>
        both id other delivery outcome (List.mem_append_right _ member)⟩
  · rintro ⟨left, right⟩ id other delivery outcome member
    rcases List.mem_append.mp member with before | after
    · exact left id other delivery outcome before
    · exact right id other delivery outcome after

/-- Whether a line of the journal is no refusal by a listener. -/
def isFaithful (listener : Listener) : Mark → Bool
  | .ended _ other _ outcome =>
      !other.isSame listener || outcome == .accepted
  | _ => true

theorem accepts_iff (listener : Listener) (marks : List Mark) :
    Accepts listener marks ↔ marks.all (isFaithful listener) = true := by
  rw [List.all_eq_true]
  constructor
  · intro accepts mark member
    cases mark with
    | ended id other delivery outcome =>
        by_cases same : other.isSame listener = true
        · simp [isFaithful, accepts id other delivery outcome member same]
        · simp [isFaithful, same]
    | _ => rfl
  · intro faithful id other delivery outcome member same
    simpa [isFaithful, same] using faithful _ member

instance (listener : Listener) (marks : List Mark) :
    Decidable (Accepts listener marks) :=
  decidable_of_iff _ (accepts_iff listener marks).symm

/-- Whoever accepts every call accepts what it heard. -/
theorem accepted_heard (listener : Listener) (marks : List Mark)
    (accepts : Accepts listener marks) :
    accepted listener marks = addressed listener (heard marks) := by
  induction marks with
  | nil => rfl
  | cons mark rest ih =>
      obtain ⟨here, later⟩ := (accepts_append listener [mark] rest).mp accepts
      have onward := ih later
      simp only [accepted, addressed, heard] at onward ⊢
      cases mark with
      | ended id other delivery outcome =>
          by_cases same : other.isSame listener = true
          · have agreed : outcome = .accepted :=
              here id other delivery outcome List.mem_cons_self same
            subst agreed
            simp [same, onward]
          · cases outcome <;> simp [same, onward]
      | _ => simpa using onward

end Mark

namespace Hub

theorem marks_heard (hub : Hub) (event : HubEvent) (step : Progress) :
    Mark.heard (hub.marks event step) = Mark.heard (hub.endMarks event) := by
  rw [Mark.heard, marks_filterMap]
  cases step.reply <;> simp [Mark.heard]

theorem endMarks_heard (hub : Hub) (id : OperationId) (outcome : CallOutcome) :
    Mark.heard (hub.endMarks (.answerCall id outcome)) =
      (hub.call? id).toList := by
  simp only [endMarks]
  cases hub.call? id <;> rfl

/-- An operation that takes a step is inside of no call. -/
theorem call?_of_advance (hub : Hub) (now : Instant) (id : OperationId)
    (step : Progress) (reacted : hub.react now (.advance id) = some step) :
    hub.call? id = none := by
  cases inside : hub.call? id with
  | none => rfl
  | some call =>
      obtain ⟨listener, delivery⟩ := call
      obtain ⟨operation, rest, report, found, walks⟩ :=
        (hub.call?_fanOut id listener delivery).mp inside
      have stuck := hub.advance_calling id operation delivery found listener rest
        report walks
      simp only [react, stuck] at reacted
      cases reacted

/-- A tick is inside of no call before and after the source answers it. -/
theorem call?_of_answerScan (hub : Hub) (now : Instant) (id : OperationId)
    (outcome : ScanOutcome) (step : Progress)
    (reacted : hub.react now (.answerScan id outcome) = some step) :
    hub.call? id = none ∧ step.hub.call? id = none := by
  have before : hub.operation? id = some (.tick .scanning) →
      hub.call? id = none := fun found =>
    hub.call?_of_calm id _ found (by intro _ _ _ walks; cases walks)
  cases hub.react_turn now _ step reacted with
  | rests _ same idle unheard =>
      simp only [react] at reacted
      split at reacted
      · rename_i reading
        have found := (hub.isScanning_iff id).mp reading
        have after : step.hub.operation? id = some (.tick .scanning) := by
          rw [alike_operation? _ _ same, found]
        exact ⟨before found, step.hub.call?_of_calm id _ after
          (by intro _ _ _ walks; cases walks)⟩
      · cases reacted
  | answers _ _ _ _ _ drives => cases drives
  | fails _ _ message found same replied =>
      have after : step.hub.operation? id = none := by
        rw [hub.operation?_left step.hub hub.registry id id same, if_pos rfl]
      exact ⟨before found, step.hub.call?_of_absent id after⟩
  | scans _ _ drives => cases drives
  | fetches _ alarms found same silent =>
      have after : step.hub.operation? id =
          some (.tick (.delivering alarms .awaitingLock)) := by
        rw [hub.operation?_moved step.hub _ id id _ _ found same, if_pos rfl]
      exact ⟨before found, step.hub.call?_of_calm id _ after
        (by intro _ _ _ walks; cases walks)⟩
  | walks _ _ _ _ _ drives => cases drives

/-- What has ended and what is under way is what was under way and what began. -/
theorem serves_heard (hub : Hub) (call : ScriptCall) (id : OperationId)
    (now : Instant) (event : HubEvent) (step : Progress)
    (serves : call.Serves id event)
    (reacted : hub.react now event = some step) :
    Mark.heard (hub.marks event step) ++ (step.hub.call? id).toList =
      (hub.call? id).toList ++ Mark.handed (hub.marks event step) := by
  rw [marks_heard, marks_handed]
  cases serves with
  | advance =>
      rw [hub.call?_of_advance now id step reacted]
      rfl
  | answerCall outcome =>
      rw [endMarks_heard]
      rfl
  | answerScan =>
      obtain ⟨before, after⟩ := hub.call?_of_answerScan now id _ step reacted
      rw [before, after]
      rfl

theorem serving_heard (hub final : Hub) (call : ScriptCall) (id : OperationId)
    (events : Timeline) (served : ∀ entry ∈ events, call.Serves id entry.2)
    (reached : hub.run events = some final) :
    Mark.heard (hub.journal events) ++ (final.call? id).toList =
      (hub.call? id).toList ++ Mark.handed (hub.journal events) := by
  induction events generalizing hub with
  | nil =>
      simp only [run, Option.some.injEq] at reached
      subst final
      simp [Hub.journal, observe, Mark.heard, Mark.handed]
  | cons entry rest ih =>
      obtain ⟨now, event⟩ := entry
      obtain ⟨step, reacted, restRun⟩ := (run_cons _ _ _ _ _).mp reached
      have first := hub.serves_heard call id now event step
        (served _ List.mem_cons_self) reacted
      have others := ih step.hub
        (fun entry member => served entry (List.mem_cons_of_mem _ member))
        restRun
      rw [hub.journal_cons now event rest step reacted, Mark.heard_append,
        Mark.handed_append, List.append_assoc, others, ← List.append_assoc,
        first, List.append_assoc]

/-- A play hears of the calls that it made, in order. -/
theorem plays_heard (hub final : Hub) (script : Script) (timeline : Timeline)
    (resting : hub.Resting) (plays : hub.Plays script timeline final) :
    Mark.heard (hub.journal timeline) = Mark.handed (hub.journal timeline) := by
  induction plays with
  | done hub => rfl
  | call hub call rest now events later served final serving answered onward
      ih =>
      have answer := hub.serving_answered call now events served resting serving
        answered
      obtain ⟨step, reacted, alone, _, noHanded, _⟩ :=
        hub.ask_alone now call resting
      obtain ⟨first, acted, restRun⟩ :=
        (run_cons _ _ _ _ _).mp serving.reached
      rw [reacted] at acted
      cases acted
      have whole := step.hub.serving_heard served call hub.nextOperation events
        serving.served restRun
      have calm := step.hub.call?_of_calm hub.nextOperation _
        (step.hub.alone_found _ _ alone) (calm_request call.request)
      have past := served.call?_of_absent hub.nextOperation
        ((served.absent_iff _).mpr answered)
      have unheard : Mark.heard (hub.marks (.ask call.request) step) = [] := by
        rw [marks_heard]
        rfl
      rw [calm, past] at whole
      rw [hub.journal_append served _ later serving.reached, Mark.heard_append,
        Mark.handed_append, ih answer.resting,
        hub.journal_cons now _ events step reacted, Mark.heard_append,
        Mark.handed_append, unheard, noHanded]
      simpa using whole

end Hub
end AlarmRelay
