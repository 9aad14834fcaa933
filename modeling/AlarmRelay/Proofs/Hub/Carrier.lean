import AlarmRelay.Hub.Journal

/-!
# Operations that carry a fan-out

Events and the scans of ticks are fanned out by one procedure, which both kinds of
operation carry.  What an operation does while it carries a fan-out is said here
once for both.
-/

set_option autoImplicit false

namespace AlarmRelay

namespace Operation

/-- The fan-out that an operation carries, and what it hands out. -/
def fanOut? : Operation → Option (Delivery × FanOut)
  | .deliver delivery _ fanOut => some (delivery, fanOut)
  | .tick (.delivering alarms fanOut) => some (.snapshot alarms, fanOut)
  | _ => none

/-- The operation with its fan-out at another point. -/
def carrying (fanOut : FanOut) : Operation → Operation
  | .deliver delivery cause _ => .deliver delivery cause fanOut
  | .tick (.delivering alarms _) => .tick (.delivering alarms fanOut)
  | operation => operation

/-- What an operation answers after its fan-out. -/
def fanOutReply : Operation → DispatchReport → Reply
  | .tick (.delivering alarms _), report =>
      .tick (.delivered alarms.length report)
  | _, report => .report report

theorem report?_fanOutReply (operation : Operation) (report : DispatchReport) :
    (operation.fanOutReply report).report? = some report := by
  cases operation with
  | tick phase => cases phase <;> rfl
  | _ => rfl

section

variable (operation : Operation) (delivery : Delivery) (fanOut : FanOut)

theorem fanOut?_cases (carries : operation.fanOut? = some (delivery, fanOut)) :
    (∃ cause, operation = .deliver delivery cause fanOut) ∨
      ∃ alarms, delivery = .snapshot alarms ∧
        operation = .tick (.delivering alarms fanOut) := by
  cases operation with
  | deliver carried cause point =>
      cases carries
      exact Or.inl ⟨cause, rfl⟩
  | tick phase =>
      cases phase with
      | delivering alarms point =>
          cases carries
          exact Or.inr ⟨alarms, rfl, rfl⟩
      | checking => cases carries
      | scanning => cases carries
  | _ => cases carries

theorem fanOut?_carrying (next : FanOut)
    (carries : operation.fanOut? = some (delivery, fanOut)) :
    (operation.carrying next).fanOut? = some (delivery, next) := by
  obtain ⟨cause, rfl⟩ | ⟨alarms, rfl, rfl⟩ :=
    operation.fanOut?_cases delivery fanOut carries <;> rfl

theorem demand_fanOut (carries : operation.fanOut? = some (delivery, fanOut)) :
    operation.demand = fanOut.demand delivery := by
  obtain ⟨cause, rfl⟩ | ⟨alarms, rfl, rfl⟩ :=
    operation.fanOut?_cases delivery fanOut carries <;> rfl

end

/-- An operation waits for a listener while its fan-out has somebody left to call,
and at no other time. -/
theorem demand_call (operation : Operation) (listener : Listener)
    (delivery : Delivery) :
    operation.demand = .call listener delivery ↔
      ∃ rest report, operation.fanOut? =
        some (delivery, .calling (listener :: rest) report) := by
  constructor
  · intro wanted
    cases carries : operation.fanOut? with
    | none =>
        cases operation with
        | tick phase => cases phase <;> first | cases wanted | cases carries
        | _ => first | cases wanted | cases carries
    | some carried =>
        obtain ⟨handed, fanOut⟩ := carried
        rw [operation.demand_fanOut handed fanOut carries] at wanted
        cases fanOut with
        | awaitingLock => cases wanted
        | calling pending report =>
            cases pending with
            | nil => cases wanted
            | cons first rest =>
                cases wanted
                exact ⟨rest, report, rfl⟩
  · rintro ⟨rest, report, walks⟩
    exact operation.demand_fanOut delivery _ walks

theorem demand_scan (operation : Operation) :
    operation.demand = .scan ↔ operation = .tick .scanning := by
  constructor
  · intro wanted
    cases carries : operation.fanOut? with
    | none =>
        cases operation with
        | tick phase =>
            cases phase <;> first | rfl | cases wanted | cases carries
        | _ => first | cases wanted | cases carries
    | some carried =>
        obtain ⟨handed, fanOut⟩ := carried
        rw [operation.demand_fanOut handed fanOut carries] at wanted
        cases fanOut with
        | awaitingLock => cases wanted
        | calling pending report => cases pending <;> cases wanted
  · rintro rfl
    rfl

/-- The end of a call takes the head off the list of those still to be called
and counts the outcome. -/
theorem answerCall_carrying (operation : Operation) (outcome : CallOutcome)
    (delivery : Delivery) (listener : Listener) (rest : List Listener)
    (report : DispatchReport)
    (walks : operation.fanOut? =
      some (delivery, .calling (listener :: rest) report)) :
    (operation.answerCall outcome).1 =
      operation.carrying (.calling rest (report.record outcome)) := by
  obtain ⟨cause, rfl⟩ | ⟨alarms, rfl, rfl⟩ :=
    operation.fanOut?_cases delivery _ walks <;> rfl

end Operation

namespace Hub

section

variable (hub : Hub) (id : OperationId)

/-- An operation is inside a listener call while its fan-out has somebody left
to call, and inside no other. -/
theorem call?_fanOut (listener : Listener) (delivery : Delivery) :
    hub.call? id = some (listener, delivery) ↔
      ∃ operation rest report, hub.operation? id = some operation ∧
        operation.fanOut? =
          some (delivery, .calling (listener :: rest) report) := by
  simp only [call?]
  cases hub.operation? id with
  | none => simp
  | some operation =>
      have here := operation.demand_call listener delivery
      cases wanted : operation.demand <;>
        simp_all [exists_and_left]

theorem isScanning_iff :
    hub.isScanning id = true ↔
      hub.operation? id = some (.tick .scanning) := by
  simp [isScanning, Operation.demand_scan]

end

section

variable (hub : Hub) (id : OperationId) (operation : Operation)
  (delivery : Delivery) (found : hub.operation? id = some operation)

include found

/-- A fan-out begins its walk as soon as it has its side of the lock. -/
theorem advance_awaiting
    (waits : operation.fanOut? = some (delivery, .awaitingLock)) :
    hub.advance id =
      if hub.registry.lock.holdsShared id then
        some ⟨hub.putOperation id
          (operation.carrying (.calling hub.registry.listeners .empty)), [], none⟩
      else none := by
  by_cases held : hub.registry.lock.holdsShared id = true
  · obtain ⟨cause, rfl⟩ | ⟨alarms, rfl, rfl⟩ :=
      operation.fanOut?_cases delivery _ waits
    · simp [advance, found, fanOutStep, held, Operation.carrying]
    · simp [advance, found, fanOutStep, held, Operation.carrying]
  · obtain ⟨cause, rfl⟩ | ⟨alarms, rfl, rfl⟩ :=
      operation.fanOut?_cases delivery _ waits
    · simp [advance, found, fanOutStep, held]
    · simp [advance, found, fanOutStep, held]

/-- A fan-out that has called everybody ends the operation. -/
theorem advance_walked (report : DispatchReport)
    (walked : operation.fanOut? = some (delivery, .calling [] report)) :
    ∃ signals, hub.advance id =
      some (hub.conclude id signals (operation.fanOutReply report)) := by
  obtain ⟨cause, rfl⟩ | ⟨alarms, rfl, rfl⟩ :=
    operation.fanOut?_cases delivery _ walked
  · refine ⟨[.metric (.latency delivery.path.label)], ?_⟩
    simp only [advance, found, fanOutStep, Operation.fanOutReply]
  · refine ⟨[.metric (.latency DeliveryPath.snapshot.label),
      .log (.snapshotDelivered alarms.length report),
      .metric (.tick (TickOutcome.delivered alarms.length report).label)], ?_⟩
    simp only [advance, found, fanOutStep, Operation.fanOutReply]

/-- Inside a listener call, nothing but its end moves a fan-out. -/
theorem advance_calling (listener : Listener) (rest : List Listener)
    (report : DispatchReport)
    (walks : operation.fanOut? =
      some (delivery, .calling (listener :: rest) report)) :
    hub.advance id = none := by
  obtain ⟨cause, rfl⟩ | ⟨alarms, rfl, rfl⟩ :=
    operation.fanOut?_cases delivery _ walks
  · simp only [advance, found, fanOutStep]
  · simp only [advance, found, fanOutStep]

/-- The end of a listener call moves the fan-out on and touches nothing else. -/
theorem react_answerCall (now : Instant) (outcome : CallOutcome)
    (listener : Listener) (rest : List Listener) (report : DispatchReport)
    (walks : operation.fanOut? =
      some (delivery, .calling (listener :: rest) report)) :
    ∃ signals, hub.react now (.answerCall id outcome) =
      some ⟨hub.putOperation id
        (operation.carrying (.calling rest (report.record outcome))), signals,
        none⟩ := by
  have inside : hub.call? id = some (listener, delivery) :=
    (hub.call?_fanOut id listener delivery).mpr
      ⟨operation, rest, report, found, walks⟩
  refine ⟨(operation.answerCall outcome).2, ?_⟩
  rw [← operation.answerCall_carrying outcome delivery listener rest report walks]
  simp only [react, inside, answerCall, found]

end

end Hub
end AlarmRelay
