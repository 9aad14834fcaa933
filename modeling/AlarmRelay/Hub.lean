import AlarmRelay.SnapshotLoop

/-!
# The alarm hub

The state of one hub and the steps of its operations: a registry under a fair
lock, the operations in flight, the snapshot loops and the lifecycle that owns
one of them.  Every step leads from one waiting point to the next and returns
what it shows; the answers of listeners and of the alarm source come from
outside.
-/

set_option autoImplicit false

namespace AlarmRelay

structure Hub where
  interval : Duration
  registry : Registry
  /-- Operations in flight, the oldest first. -/
  operations : List (OperationId × Operation)
  nextOperation : OperationId
  /-- Every loop spawned so far; its position is its name. -/
  loops : List SnapshotLoop
  /-- The loop that the lifecycle owns. -/
  task : Option LoopId
  /-- The loop that the lifecycle spawned last. -/
  latest : Option LoopId
  /-- Whether the owner has let the hub go. -/
  closed : Bool
  /-- Whether the registry of a closed hub is gone. -/
  released : Bool
  deriving DecidableEq, Repr

/-- The result of a step: the hub, what the step shows, and the answer if the
operation is over. -/
structure Progress where
  hub : Hub
  signals : List Signal
  reply : Option Reply
  deriving DecidableEq, Repr

namespace Hub

def create (config : HubConfig) : Hub where
  interval := config.snapshotInterval
  registry := .empty
  operations := []
  nextOperation := 0
  loops := []
  task := none
  latest := none
  closed := false
  released := false

instance : Inhabited Hub := ⟨create .standard⟩

def create? (config : HubConfig) : Except HubError (Hub × List Signal) := do
  config.validate
  return (create config, [.log (.hubCreated config)])

def operation? (hub : Hub) (id : OperationId) : Option Operation :=
  hub.operations.lookup id

def putOperation (hub : Hub) (id : OperationId) (operation : Operation) : Hub :=
  { hub with
    operations := hub.operations.map fun entry =>
      if entry.1 = id then (id, operation) else entry }

/-- Whether a loop is over; a loop never spawned counts as over. -/
def loopFinished (hub : Hub) (id : LoopId) : Bool :=
  match hub.loops[id]? with
  | none => true
  | some loop => loop.isFinished

def updateLoop (hub : Hub) (id : LoopId) (change : SnapshotLoop → SnapshotLoop) :
    Hub :=
  { hub with loops := hub.loops.modify id change }

/-- Operations that a caller awaits, as opposed to the ticks of loops. -/
def callerOperations (hub : Hub) : List OperationId :=
  (hub.operations.map Prod.fst).filter fun id =>
    !(hub.loops.any (fun loop => loop.isTicking id))

/-- Cancel the owned loop and own it no longer. -/
def disown (hub : Hub) : Hub :=
  match hub.task with
  | none => hub
  | some loop => { hub.updateLoop loop SnapshotLoop.cancel with task := none }

/-- Give up what nobody uses any more.  A closed hub without callers cancels its
loop; once every loop is over, its registry goes and takes its listeners off the
gauge. -/
def reclaim (hub : Hub) : Hub × List Signal :=
  if hub.closed && !hub.released && hub.callerOperations.isEmpty then
    let hub := hub.disown
    if hub.loops.all SnapshotLoop.isFinished then
      ({ hub with released := true }, hub.registry.releaseSignals)
    else (hub, [])
  else (hub, [])

/-- Begin an operation: it asks for its side of the lock. -/
def begin (hub : Hub) (operation : Operation) : Hub × OperationId :=
  let id := hub.nextOperation
  let registry := match operation.firstLock with
    | none => hub.registry
    | some mode => hub.registry.request id mode
  ({ hub with
      registry := registry
      operations := hub.operations ++ [(id, operation)]
      nextOperation := id + 1 }, id)

/-- Forget an operation: its place in the lock is free again. -/
def forget (hub : Hub) (id : OperationId) : Hub :=
  { hub with
    registry := hub.registry.leave id
    operations := hub.operations.filter (fun entry => entry.1 != id)
    loops := hub.loops.map (SnapshotLoop.tickEnded id) }

def conclude (hub : Hub) (id : OperationId) (signals : List Signal)
    (reply : Reply) : Progress :=
  let (hub, more) := (hub.forget id).reclaim
  ⟨hub, signals ++ more, some reply⟩

/-- Drop an operation where it stands: it gives up its lock or its place in the
queue, calls no further listener and measures nothing more. -/
def abandon (hub : Hub) (id : OperationId) : Hub × List Signal :=
  (hub.forget id).reclaim

/-- Announce a lifecycle event: it is measured and logged, and its delivery asks
for the lock. -/
def publish (hub : Hub) (event : AlarmEvent) :
    Hub × OperationId × List Signal :=
  let (hub, id) :=
    hub.begin (.deliver (.ofEvent event) event.label .awaitingLock)
  (hub, id, [.metric (.event event.label),
    .log (.dispatching event.label event.alarmId)])

/-- The step of a fan-out that does not depend on a listener: it begins its walk
once the shared side is held, and ends it after the last call. -/
inductive FanOutStep where
  /-- It has to wait. -/
  | blocked
  /-- It goes on in another state. -/
  | continues (fanOut : FanOut)
  /-- Its walk is over. -/
  | ends (report : DispatchReport)

/-- The next step of the fan-out that runs as `id`. -/
def fanOutStep (hub : Hub) (id : OperationId) : FanOut → FanOutStep
  | .awaitingLock =>
      if hub.registry.lock.holdsShared id then
        .continues (.calling hub.registry.listeners .empty)
      else .blocked
  | .calling [] report => .ends report
  | .calling (_ :: _) _ => .blocked

/-- Take the next step of an operation, if it needs no answer from outside. -/
def advance (hub : Hub) (id : OperationId) : Option Progress :=
  let lock := hub.registry.lock
  match hub.operation? id with
  | none => none
  | some (.add listener) =>
      if lock.holdsExclusive id then
        some (conclude { hub with registry := hub.registry.add listener } id
          (hub.registry.addSignals listener)
          (.flag (!hub.registry.contains listener)))
      else none
  | some (.remove listener) =>
      if lock.holdsExclusive id then
        some (conclude { hub with registry := hub.registry.remove listener } id
          (hub.registry.removeSignals listener)
          (.flag (hub.registry.contains listener)))
      else none
  | some .count =>
      if lock.holdsShared id then
        some (hub.conclude id [] (.count hub.registry.listeners.length))
      else none
  | some .isEmpty =>
      if lock.holdsShared id then
        some (hub.conclude id [] (.flag hub.registry.listeners.isEmpty))
      else none
  | some .listeners =>
      if lock.holdsShared id then
        some (hub.conclude id [] (.listeners hub.registry.listeners))
      else none
  | some .borrow => none
  | some (.deliver delivery cause fanOut) =>
      match hub.fanOutStep id fanOut with
      | .blocked => none
      | .continues next =>
          some ⟨hub.putOperation id (.deliver delivery cause next), [], none⟩
      | .ends report =>
          some (hub.conclude id [.metric (.latency delivery.path.label)]
            (.report report))
  | some (.tick .checking) =>
      if lock.holdsShared id then
        if hub.registry.listeners.isEmpty then
          some (hub.conclude id
            [.log .snapshotSkipped, .metric (.tick TickOutcome.skipped.label)]
            (.tick .skipped))
        else
          some ⟨{ hub with registry := hub.registry.leave id }.putOperation id
            (.tick .scanning), [], none⟩
      else none
  | some (.tick .scanning) => none
  | some (.tick (.delivering alarms fanOut)) =>
      match hub.fanOutStep id fanOut with
      | .blocked => none
      | .continues next =>
          some ⟨hub.putOperation id (.tick (.delivering alarms next)), [], none⟩
      | .ends report =>
          let outcome := TickOutcome.delivered alarms.length report
          some (hub.conclude id
            [.metric (.latency DeliveryPath.snapshot.label),
              .log (.snapshotDelivered alarms.length report),
              .metric (.tick outcome.label)]
            (.tick outcome))
  | some (.awaitExit loop) =>
      match (hub.loops[loop]?).map SnapshotLoop.phase with
      | some (.finished .killed) =>
          some (hub.conclude id [.log .schedulerKilled, .log .hubStopped] .stopped)
      | some (.finished _) => some (hub.conclude id [.log .hubStopped] .stopped)
      | _ => none

/-- The listener call of an operation ended. -/
def answerCall (hub : Hub) (id : OperationId) (outcome : CallOutcome) :
    Hub × List Signal :=
  match hub.operation? id with
  | none => (hub, [])
  | some operation =>
      let (next, signals) := operation.answerCall outcome
      (hub.putOperation id next, signals)

def failTick (hub : Hub) (id : OperationId) (record : LogRecord)
    (message : String) : Progress :=
  let outcome := TickOutcome.failed message
  hub.conclude id [.log record, .metric (.tick outcome.label)] (.tick outcome)

/-- The source scan of a tick ended: a list is fanned out, a failure ends the
tick. -/
def answerScan (hub : Hub) (id : OperationId) (outcome : ScanOutcome) :
    Progress :=
  match hub.operation? id with
  | some (.tick .scanning) =>
      match outcome with
      | .alarms alarms =>
          let hub := hub.putOperation id (.tick (.delivering alarms .awaitingLock))
          ⟨{ hub with registry := hub.registry.request id .shared },
            [.metric (.snapshotSize alarms.length)], none⟩
      | .failed error =>
          hub.failTick id (.snapshotFailed error) error.message
      | .panicked payload =>
          hub.failTick id (.snapshotPanicked payload)
            ("panicked: " ++ payload.message)
  | _ => ⟨hub, [], none⟩

end Hub
end AlarmRelay
