import AlarmRelay.Registry

/-!
# Operations in flight

An operation on a hub runs from one waiting point to the next.  Its state says
where it stands, and its demand says what it waits for: a side of the registry
lock, the end of a listener call, the end of a source scan, or a loop's exit.
-/

set_option autoImplicit false

namespace AlarmRelay

/-- Names one operation in flight; it is also its ticket at the lock. -/
abbrev OperationId := Nat

/-- Names one snapshot loop of a hub, by the order in which they are spawned. -/
abbrev LoopId := Nat

inductive FanOut where
  /-- The shared side of the registry lock has been asked for. -/
  | awaitingLock
  /-- The shared side is held; the call to the first of `pending` is under way
  and `report` covers the calls that ended. -/
  | calling (pending : List Listener) (report : DispatchReport)
  deriving DecidableEq, Repr

inductive TickPhase where
  /-- The shared side has been asked for, to see whether anyone listens. -/
  | checking
  /-- The source is being read; no lock is held. -/
  | scanning
  /-- The scan is being fanned out. -/
  | delivering (alarms : List Alarm) (fanOut : FanOut)
  deriving DecidableEq, Repr

inductive Operation where
  | add (listener : Listener)
  | remove (listener : Listener)
  | count
  | isEmpty
  | listeners
  /-- Hold the shared side until it is given up. -/
  | borrow
  /-- Fan a delivery out; `cause` names what triggered it. -/
  | deliver (delivery : Delivery) (cause : String) (fanOut : FanOut)
  | tick (phase : TickPhase)
  | awaitExit (loop : LoopId)
  deriving DecidableEq, Repr

inductive Reply where
  | flag (value : Bool)
  | count (value : Nat)
  | listeners (listeners : List Listener)
  | report (report : DispatchReport)
  | tick (outcome : TickOutcome)
  | stopped
  deriving DecidableEq, Repr

inductive Demand where
  | lock (mode : LockMode)
  | call (listener : Listener) (delivery : Delivery)
  | scan
  | exit (loop : LoopId)
  /-- Its holder gives it up. -/
  | release
  /-- Nothing: it can take its last step. -/
  | nothing
  deriving DecidableEq, Repr

namespace FanOut

def demand (delivery : Delivery) : FanOut → Demand
  | .awaitingLock => .lock .shared
  | .calling [] _ => .nothing
  | .calling (listener :: _) _ => .call listener delivery

/-- What the end of one call shows: a failure is measured and logged. -/
def callSignals (delivery : Delivery) (cause : String) (listener : Listener)
    (outcome : CallOutcome) : List Signal :=
  match outcome.error? with
  | none => []
  | some error =>
      [.metric (.listenerFailure delivery.path.label),
        .log (.listenerFailed listener.name cause error)]

/-- The fan-out after the call under way ended, and what that shows. -/
def answer (delivery : Delivery) (cause : String) (outcome : CallOutcome) :
    FanOut → FanOut × List Signal
  | .calling (listener :: rest) report =>
      (.calling rest (report.record outcome),
        callSignals delivery cause listener outcome)
  | fanOut => (fanOut, [])

end FanOut

namespace Operation

def demand : Operation → Demand
  | .add _ | .remove _ => .lock .exclusive
  | .count | .isEmpty | .listeners => .lock .shared
  | .borrow => .release
  | .deliver delivery _ fanOut => fanOut.demand delivery
  | .tick .checking => .lock .shared
  | .tick .scanning => .scan
  | .tick (.delivering alarms fanOut) => fanOut.demand (.snapshot alarms)
  | .awaitExit loop => .exit loop

/-- The side of the lock that an operation asks for when it begins. -/
def firstLock : Operation → Option LockMode
  | .add _ | .remove _ => some .exclusive
  | .count | .isEmpty | .listeners | .borrow => some .shared
  | .deliver _ _ _ | .tick _ => some .shared
  | .awaitExit _ => none

def answerCall (outcome : CallOutcome) : Operation → Operation × List Signal
  | .deliver delivery cause fanOut =>
      let (next, signals) := fanOut.answer delivery cause outcome
      (.deliver delivery cause next, signals)
  | .tick (.delivering alarms fanOut) =>
      let (next, signals) := fanOut.answer (.snapshot alarms) "snapshot" outcome
      (.tick (.delivering alarms next), signals)
  | operation => (operation, [])

end Operation
end AlarmRelay
