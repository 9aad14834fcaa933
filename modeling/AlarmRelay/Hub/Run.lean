import AlarmRelay.Hub.Lifecycle

/-!
# Runs of a hub

Everything that can happen to a hub, one event at a time.  Callers begin
operations and drop them, operations and loops take their next step, listeners
and the alarm source answer, the runtime is lost and the owner lets the hub go.
A run is a list of events with the instants at which they happen, so the order
in which tasks take turns is data, and a statement about all runs is a statement
about every interleaving.
-/

set_option autoImplicit false

namespace AlarmRelay

/-- What a caller asks of a hub and then awaits. -/
inductive Request where
  | subscribe (listener : Listener)
  | unsubscribe (listener : Listener)
  | count
  | isEmpty
  | listeners
  | borrow
  | deliver (delivery : Delivery) (cause : String)
  | publish (event : AlarmEvent)
  | snapshot
  deriving DecidableEq, Repr

/-- The operation that serves a request. -/
def Request.operation : Request → Operation
  | .subscribe listener => .add listener
  | .unsubscribe listener => .remove listener
  | .count => .count
  | .isEmpty => .isEmpty
  | .listeners => .listeners
  | .borrow => .borrow
  | .deliver delivery cause => .deliver delivery cause .awaitingLock
  | .publish event => .deliver (.ofEvent event) event.label .awaitingLock
  | .snapshot => .tick .checking

/-- One thing that happens to a hub. -/
inductive HubEvent where
  /-- A caller begins an operation. -/
  | ask (request : Request)
  /-- A caller starts the scheduler inside or outside the runtime. -/
  | start (inRuntime : Bool)
  /-- A caller stops the scheduler and waits for its loop. -/
  | stop
  /-- An operation takes its next step. -/
  | advance (id : OperationId)
  /-- The listener call of an operation ends. -/
  | answerCall (id : OperationId) (outcome : CallOutcome)
  /-- The source scan of a tick ends. -/
  | answerScan (id : OperationId) (outcome : ScanOutcome)
  /-- A caller drops an operation before it has answered. -/
  | abandon (id : OperationId)
  /-- A loop takes its next step. -/
  | advanceLoop (loop : LoopId)
  /-- The runtime is lost with every loop on it. -/
  | loseRuntime
  /-- The owner lets the hub go. -/
  | close
  deriving DecidableEq, Repr

/-- The events of a run, each with the instant at which it happens. -/
abbrev Timeline := List (Instant × HubEvent)

namespace Hub

/-- Begin what a caller asks for. -/
def ask (hub : Hub) : Request → Hub × List Signal
  | .publish event =>
      let (hub, _, signals) := hub.publish event
      (hub, signals)
  | request => ((hub.begin request.operation).1, [])

/-- The listener call that an operation is inside of. -/
def call? (hub : Hub) (id : OperationId) : Option (Listener × Delivery) :=
  match (hub.operation? id).map Operation.demand with
  | some (.call listener delivery) => some (listener, delivery)
  | _ => none

/-- Whether a tick is inside its source scan. -/
def isScanning (hub : Hub) (id : OperationId) : Bool :=
  (hub.operation? id).map Operation.demand == some .scan

/-- The answer of the tick that a loop is inside of, if its next step ends it. -/
def loopReply? (hub : Hub) (loop : LoopId) : Option Reply :=
  ((hub.loopTick? loop).bind hub.advance).bind Progress.reply

/-- What one event makes of a hub at `now`; nothing if it cannot happen.  A
closed hub takes no more calls, and the tick of a loop is dropped by nobody but
the loss of the runtime. -/
def react (now : Instant) (hub : Hub) : HubEvent → Option Progress
  | .ask request =>
      if hub.closed then none
      else
        let (next, signals) := hub.ask request
        some ⟨next, signals, none⟩
  | .start inRuntime =>
      if hub.closed then none
      else
        match hub.start inRuntime with
        | .error _ => some ⟨hub, [], none⟩
        | .ok (next, _, signals) => some ⟨next, signals, none⟩
  | .stop =>
      if hub.closed then none
      else
        match hub.stop with
        | (next, none) => some ⟨next, [], some .stopped⟩
        | (next, some _) => some ⟨next, [], none⟩
  | .advance id => hub.advance id
  | .answerCall id outcome =>
      match hub.call? id with
      | none => none
      | some _ =>
          let (next, signals) := hub.answerCall id outcome
          some ⟨next, signals, none⟩
  | .answerScan id outcome =>
      if hub.isScanning id then some (hub.answerScan id outcome) else none
  | .abandon id =>
      if hub.callerOperations.contains id then
        let (next, signals) := hub.abandon id
        some ⟨next, signals, none⟩
      else none
  | .advanceLoop loop =>
      (hub.advanceLoop now loop).map fun (next, signals) =>
        ⟨next, signals, hub.loopReply? loop⟩
  | .loseRuntime =>
      let (next, signals) := hub.loseRuntime
      some ⟨next, signals, none⟩
  | .close =>
      if hub.closed then none
      else
        let (next, signals) := hub.close
        some ⟨next, signals, none⟩

/-- The hub after a run; nothing if one of its events cannot happen. -/
def run (hub : Hub) : Timeline → Option Hub
  | [] => some hub
  | (now, event) :: rest =>
      match hub.react now event with
      | none => none
      | some step => step.hub.run rest

/-- What an observer sees along a run, event after event. -/
def observe {α : Type} (view : Hub → HubEvent → Progress → List α) (hub : Hub) :
    Timeline → List α
  | [] => []
  | (now, event) :: rest =>
      match hub.react now event with
      | none => []
      | some step => view hub event step ++ step.hub.observe view rest

end Hub
end AlarmRelay
