import AlarmRelay.Proofs.Hub.Turn
import Mathlib.Data.List.Basic
import Mathlib.Data.Prod.Basic

/-!
# The journal of one event

What one event adds to the calls, the answers and the admissions that a journal
records, read off the hubs before and after it.
-/

set_option autoImplicit false

namespace AlarmRelay

namespace Mark

theorem calls_append (id : OperationId) (first second : List Mark) :
    calls id (first ++ second) = calls id first ++ calls id second := by
  simp [calls]

theorem endings_append (id : OperationId) (first second : List Mark) :
    endings id (first ++ second) = endings id first ++ endings id second := by
  simp [endings]

theorem endedCalls_append (id : OperationId) (first second : List Mark) :
    endedCalls id (first ++ second) =
      endedCalls id first ++ endedCalls id second := by
  simp [endedCalls, endings_append]

theorem outcomes_append (id : OperationId) (first second : List Mark) :
    outcomes id (first ++ second) =
      outcomes id first ++ outcomes id second := by
  simp [outcomes, endings_append]

theorem admissions_append (id : OperationId) (first second : List Mark) :
    admissions id (first ++ second) =
      admissions id first ++ admissions id second := by
  simp [admissions]

theorem handed_append (first second : List Mark) :
    handed (first ++ second) = handed first ++ handed second := by
  simp [handed]

theorem verdicts_append (first second : List Mark) :
    verdicts (first ++ second) = verdicts first ++ verdicts second := by
  simp [verdicts]

theorem replies_append (first second : List Mark) :
    replies (first ++ second) = replies first ++ replies second := by
  simp [replies]

theorem received_append (listener : Listener) (first second : List Mark) :
    received listener (first ++ second) =
      received listener first ++ received listener second := by
  simp [received]

end Mark

namespace Hub

theorem endMarks_calls (hub : Hub) (event : HubEvent) (id : OperationId) :
    Mark.calls id (hub.endMarks event) = [] := by
  cases event with
  | answerCall other outcome =>
      simp only [endMarks]
      cases hub.call? other <;> rfl
  | _ => rfl

theorem endMarks_endings (hub : Hub) (id other : OperationId)
    (outcome : CallOutcome) :
    Mark.endings id (hub.endMarks (.answerCall other outcome)) =
      if other = id then (hub.call? id).toList.map fun call => (call, outcome)
      else [] := by
  simp only [endMarks]
  split
  · rename_i same
    subst same
    cases hub.call? other <;> simp [Mark.endings]
  · rename_i different
    cases hub.call? other <;> simp [Mark.endings, different]

theorem call?_of_absent (hub : Hub) (id : OperationId)
    (absent : hub.operation? id = none) : hub.call? id = none := by
  simp [call?, absent]

/-- A view of the journal that looks at one line at a time, on one event. -/
theorem marks_filterMap {α : Type} (view : Mark → Option α) (hub : Hub)
    (event : HubEvent) (step : Progress) :
    (hub.marks event step).filterMap view =
      (hub.endMarks event).filterMap view ++
      (hub.inFlight.filter fun id =>
        !step.hub.inFlight.contains id).filterMap (fun id =>
          view ((step.reply.map (Mark.returned id)).getD (.dropped id))) ++
      (step.hub.operations.filter fun entry =>
        hub.nextOperation ≤ entry.1).filterMap (fun entry =>
          view (.requested entry.1 entry.2)) ++
      (step.hub.registry.lock.readers.filter fun id =>
        !hub.registry.lock.readers.contains id).filterMap (fun id =>
          view (.admitted id step.hub.registry.listeners)) ++
      ((hub.subject? event).bind fun id => (step.hub.call? id).bind fun call =>
        view (.began id call.1 call.2)).toList := by
  simp only [marks, List.filterMap_append, List.filterMap_map,
    Function.comp_def]
  congr 1
  cases hub.subject? event with
  | none => rfl
  | some id =>
      cases inside : step.hub.call? id with
      | none => simp [inside]
      | some call =>
          cases shown : view (.began id call.1 call.2) <;>
            simp [inside, shown]

/-- Calls begin where the operation that an event moves on is inside of a call
afterwards. -/
theorem marks_handed (hub : Hub) (event : HubEvent) (step : Progress) :
    Mark.handed (hub.marks event step) =
      ((hub.subject? event).bind step.hub.call?).toList := by
  have ended : Mark.handed (hub.endMarks event) = [] := by
    cases event <;> simp [endMarks, Mark.handed, List.filterMap_map]
  rw [Mark.handed] at ended ⊢
  rw [marks_filterMap, ended]
  cases step.reply <;> simp

theorem marks_calls (hub : Hub) (event : HubEvent) (step : Progress)
    (id : OperationId) :
    Mark.calls id (hub.marks event step) =
      if hub.subject? event = some id then (step.hub.call? id).toList
      else [] := by
  have ended := hub.endMarks_calls event id
  rw [Mark.calls] at ended ⊢
  rw [marks_filterMap, ended]
  cases subject : hub.subject? event with
  | none => cases step.reply <;> simp
  | some other =>
      by_cases same : other = id
      · subst same
        cases step.reply <;> simp
      · cases step.reply <;> simp [same]

/-- Calls end where an event says so. -/
theorem marks_endings (hub : Hub) (event : HubEvent) (step : Progress)
    (id : OperationId) :
    Mark.endings id (hub.marks event step) =
      Mark.endings id (hub.endMarks event) := by
  rw [Mark.endings, marks_filterMap]
  cases step.reply <;> simp [Mark.endings]

theorem marks_verdicts (hub : Hub) (event : HubEvent) (step : Progress) :
    Mark.verdicts (hub.marks event step) =
      Mark.verdicts (hub.endMarks event) := by
  rw [Mark.verdicts, marks_filterMap]
  cases step.reply <;> simp [Mark.verdicts]

/-- Whatever is gone after an event got the answer of the event. -/
theorem marks_replies (hub : Hub) (event : HubEvent) (step : Progress) :
    Mark.replies (hub.marks event step) =
      (hub.inFlight.filter fun id =>
        !step.hub.inFlight.contains id).filterMap fun _ => step.reply := by
  have ended : Mark.replies (hub.endMarks event) = [] := by
    cases event <;> simp [endMarks, Mark.replies, List.filterMap_map]
  rw [Mark.replies] at ended ⊢
  rw [marks_filterMap, ended]
  cases step.reply <;> simp

theorem mem_marks (hub : Hub) (event : HubEvent) (step : Progress)
    (mark : Mark) :
    mark ∈ hub.marks event step ↔
      mark ∈ hub.endMarks event ∨
      (∃ id ∈ hub.inFlight, id ∉ step.hub.inFlight ∧
        mark = (step.reply.map (Mark.returned id)).getD (.dropped id)) ∨
      (∃ id operation, (id, operation) ∈ step.hub.operations ∧
        hub.nextOperation ≤ id ∧ mark = .requested id operation) ∨
      (∃ id ∈ step.hub.registry.lock.readers,
        id ∉ hub.registry.lock.readers ∧
          mark = .admitted id step.hub.registry.listeners) ∨
      (∃ id listener delivery, hub.subject? event = some id ∧
        step.hub.call? id = some (listener, delivery) ∧
          mark = .began id listener delivery) := by
  simp only [marks, List.mem_append, or_assoc]
  refine or_congr Iff.rfl (or_congr ?_ (or_congr ?_ (or_congr ?_ ?_)))
  · simp [and_assoc, @eq_comm _ mark]
  · simp [and_assoc, @eq_comm _ mark]
  · simp [and_assoc, @eq_comm _ mark]
  · simp only [Option.mem_toList, Option.bind_eq_some_iff,
      Option.map_eq_some_iff, Prod.exists, @eq_comm _ mark]
    constructor
    · rintro ⟨id, subject, listener, delivery, inside, same⟩
      exact ⟨id, listener, delivery, subject, inside, same⟩
    · rintro ⟨id, listener, delivery, subject, inside, same⟩
      exact ⟨id, subject, listener, delivery, inside, same⟩

theorem mem_endMarks (hub : Hub) (event : HubEvent) (mark : Mark)
    (member : mark ∈ hub.endMarks event) :
    ∃ id listener delivery outcome,
      mark = .ended id listener delivery outcome := by
  cases event with
  | answerCall id outcome =>
      simp only [endMarks, List.mem_map] at member
      obtain ⟨call, _, rfl⟩ := member
      exact ⟨id, call.1, call.2, outcome, rfl⟩
  | _ => cases member

theorem mem_returned (hub : Hub) (event : HubEvent) (step : Progress)
    (id : OperationId) (reply : Reply)
    (member : .returned id reply ∈ hub.marks event step) :
    id ∈ hub.inFlight ∧ id ∉ step.hub.inFlight ∧ step.reply = some reply := by
  rcases (hub.mem_marks event step _).mp member with
    ended | ⟨other, before, after, same⟩ | ⟨_, _, _, _, same⟩ |
      ⟨_, _, _, same⟩ | ⟨_, _, _, _, _, same⟩
  · obtain ⟨_, _, _, _, same⟩ := hub.mem_endMarks event _ ended
    cases same
  · cases replied : step.reply with
    | none =>
        rw [replied] at same
        cases same
    | some answer =>
        rw [replied] at same
        cases same
        exact ⟨before, after, rfl⟩
  · cases same
  · cases same
  · cases same

theorem mem_dropped (hub : Hub) (event : HubEvent) (step : Progress)
    (id : OperationId) :
    .dropped id ∈ hub.marks event step ↔
      id ∈ hub.inFlight ∧ id ∉ step.hub.inFlight ∧ step.reply = none := by
  constructor
  · intro member
    rcases (hub.mem_marks event step _).mp member with
      ended | ⟨other, before, after, same⟩ | ⟨_, _, _, _, same⟩ |
        ⟨_, _, _, same⟩ | ⟨_, _, _, _, _, same⟩
    · obtain ⟨_, _, _, _, same⟩ := hub.mem_endMarks event _ ended
      cases same
    · cases replied : step.reply with
      | none =>
          rw [replied] at same
          cases same
          exact ⟨before, after, rfl⟩
      | some answer =>
          rw [replied] at same
          cases same
    · cases same
    · cases same
    · cases same
  · rintro ⟨before, after, silent⟩
    apply (hub.mem_marks event step _).mpr
    exact Or.inr (Or.inl ⟨id, before, after, by rw [silent]; rfl⟩)

theorem mem_requested (hub : Hub) (event : HubEvent) (step : Progress)
    (id : OperationId) (operation : Operation)
    (member : .requested id operation ∈ hub.marks event step) :
    (id, operation) ∈ step.hub.operations ∧ hub.nextOperation ≤ id := by
  rcases (hub.mem_marks event step _).mp member with
    ended | ⟨other, _, _, same⟩ | ⟨_, _, present, fresh, same⟩ |
      ⟨_, _, _, same⟩ | ⟨_, _, _, _, _, same⟩
  · obtain ⟨_, _, _, _, same⟩ := hub.mem_endMarks event _ ended
    cases same
  · cases replied : step.reply <;> rw [replied] at same <;> cases same
  · cases same
    exact ⟨present, fresh⟩
  · cases same
  · cases same

theorem mem_began (hub : Hub) (event : HubEvent) (step : Progress)
    (id : OperationId) (listener : Listener) (delivery : Delivery)
    (member : .began id listener delivery ∈ hub.marks event step) :
    step.hub.call? id = some (listener, delivery) := by
  rcases (hub.mem_marks event step _).mp member with
    ended | ⟨_, _, _, wrong⟩ | ⟨_, _, _, _, wrong⟩ | ⟨_, _, _, wrong⟩ |
      ⟨_, _, _, _, inside, right⟩
  · obtain ⟨_, _, _, _, wrong⟩ := hub.mem_endMarks event _ ended
    cases wrong
  · cases replied : step.reply <;> rw [replied] at wrong <;> cases wrong
  · cases wrong
  · cases wrong
  · cases right
    exact inside

theorem mem_received (hub : Hub) (event : HubEvent) (step : Progress)
    (listener : Listener) (delivery : Delivery)
    (member : delivery ∈ Mark.received listener (hub.marks event step)) :
    ∃ id other, hub.subject? event = some id ∧
      step.hub.call? id = some (other, delivery) ∧
        other.isSame listener = true := by
  simp only [Mark.received, List.mem_filterMap] at member
  obtain ⟨mark, present, shown⟩ := member
  cases mark with
  | began id other carried =>
      simp only [Option.ite_none_right_eq_some, Option.some.injEq] at shown
      obtain ⟨same, rfl⟩ := shown
      rcases (hub.mem_marks event step _).mp present with
        ended | ⟨_, _, _, wrong⟩ | ⟨_, _, _, _, wrong⟩ | ⟨_, _, _, wrong⟩ |
          ⟨_, _, _, subject, inside, right⟩
      · obtain ⟨_, _, _, _, wrong⟩ := hub.mem_endMarks event _ ended
        cases wrong
      · cases replied : step.reply <;> rw [replied] at wrong <;> cases wrong
      · cases wrong
      · cases wrong
      · cases right
        exact ⟨_, _, subject, inside, same⟩
  | _ => cases shown

/-- An operation is admitted where it becomes a holder of the shared side. -/
theorem marks_admissions (hub : Hub) (event : HubEvent) (step : Progress)
    (id : OperationId) (listeners : List Listener) :
    listeners ∈ Mark.admissions id (hub.marks event step) ↔
      id ∈ step.hub.registry.lock.readers ∧
        id ∉ hub.registry.lock.readers ∧
          listeners = step.hub.registry.listeners := by
  simp only [Mark.admissions, List.mem_filterMap]
  constructor
  · rintro ⟨mark, present, shown⟩
    cases mark with
    | admitted other shownListeners =>
        simp only [Option.ite_none_right_eq_some, Option.some.injEq] at shown
        obtain ⟨rfl, rfl⟩ := shown
        rcases (hub.mem_marks event step _).mp present with
          ended | ⟨_, _, _, wrong⟩ | ⟨_, _, _, _, wrong⟩ |
            ⟨_, after, before, right⟩ | ⟨_, _, _, _, _, wrong⟩
        · obtain ⟨_, _, _, _, wrong⟩ := hub.mem_endMarks event _ ended
          cases wrong
        · cases replied : step.reply <;> rw [replied] at wrong <;> cases wrong
        · cases wrong
        · cases right
          exact ⟨after, before, rfl⟩
        · cases wrong
    | _ => cases shown
  · rintro ⟨after, before, rfl⟩
    refine ⟨.admitted id step.hub.registry.listeners, ?_, by simp⟩
    apply (hub.mem_marks event step _).mpr
    exact Or.inr (Or.inr (Or.inr (Or.inl ⟨id, after, before, rfl⟩)))

end Hub
end AlarmRelay
