import AlarmRelay.Hub.Lifecycle
import AlarmRelay.Producer
import AlarmRelay.Scenario

/-!
# The state of a scripted run

Tasks are stacks of frames.  The top frame is what the task is doing now, the
frames below are what it returns to.  The world holds the tasks together with
everything they share: the clock, the hubs, the store, the listeners, the ledger
and the records of what happened.
-/

set_option autoImplicit false

namespace AlarmRelay.Scenario

/-- Names a task by the order in which tasks are spawned; the main task is `0`. -/
abbrev TaskId := Nat

/-- A deadline.  Deadlines of one instant are served in the order in which they
were armed. -/
structure Timer where
  due : Instant
  armed : Option Nat

inductive CallStage where
  | delayed (timer : Timer)
  | ready
  /-- Its steps are running in frames above. -/
  | running
  | ending

inductive Frame where
  /-- Run steps one after another and collect their answers. -/
  | steps (todo : List Step) (done : List (Nat × Answer))
  /-- Drop everything above when the deadline passes. -/
  | deadline (timer : Timer)
  /-- Answer nothing, whatever is answered above. -/
  | silent
  | sleep (timer : Timer)
  | join (task : TaskId)
  | operation (hub : Nat) (id : OperationId)
  /-- The body of a listener call made by an operation. -/
  | call (hub : Nat) (id : OperationId) (listener : Nat) (behaviour : Behaviour)
      (stage : CallStage)
  /-- The body of a source scan made by an operation. -/
  | scan (hub : Nat) (id : OperationId) (result : ScanResult)
      (delay : Option Timer)
  /-- Ask for the shared side of a registry and hold it for a time. -/
  | hold (hub : Nat) (id : OperationId) (millis : Nat)
      (held : Option (Timer × Nat))
  | schedule (hub : Nat) (loop : LoopId) (armed : Option Nat)
  /-- Await the end of a loop that runs without a hub around it. -/
  | awaitLoop (hub : Nat) (loop : LoopId)
  | produce (hub : Nat) (remaining : Nat) (actions : List ProducerAction)
  | produceLoop (hub : Nat) (run : Nat) (armed : Option Nat)
  | awaitProducer (run : Nat)

inductive TaskEnd where
  | completed (answer : Answer)
  | aborted

structure Task where
  /-- The name under which its doings are recorded. -/
  origin : String
  stack : List Frame
  ending : Option TaskEnd

structure HubCell where
  hub : Hub
  /-- Whether its source follows the scripted behaviours. -/
  scriptedSource : Bool

/-- What steps may address under one index. -/
structure Target where
  /-- Whether there is a hub around the parts. -/
  isHub : Bool
  /-- The hub cell behind it. -/
  cell : Nat
  /-- The loop started last, for parts without a hub. -/
  run : Option LoopId

structure ListenerCell where
  spec : ListenerSpec
  behaviours : List Behaviour
  received : Nat

structure ProducerCell where
  cell : Nat
  producer : Producer
  /-- The loop that runs it and has not been asked for yet. -/
  run : Option Nat

/-- Everything that the tasks of a run share. -/
structure World where
  now : Instant
  clock : Timestamp
  cells : Array HubCell
  /-- What steps may address; `none` where there is nothing any more. -/
  targets : Array (Option Target)
  store : AlarmStore
  source : List ScanBehaviour
  listeners : Array ListenerCell
  producer : Option ProducerCell
  producerLoops : Array ProducerLoop
  ledger : Ledger
  level : Option LogLevel
  /-- What happened since the last element, the latest first. -/
  calls : List (Happening CallEntry)
  logs : List (Happening LogEntry)
  tasks : Array Task
  /-- Tasks that may go on, in the order in which they will. -/
  ready : List TaskId
  tags : List (String × TaskId)
  armed : Nat

namespace World

/-- The name under which a task's doings are recorded. -/
def originOf (world : World) (task : TaskId) : String :=
  match world.tasks[task]? with
  | some task => task.origin
  | none => ""

/-- Write a log record under a name, if its level is kept. -/
def logAs (world : World) (origin : String) (record : LogRecord) : World :=
  match world.level with
  | none => world
  | some level =>
      let entry := record.entry
      if entry.level.verbosity ≤ level.verbosity then
        { world with logs := ⟨world.now.millis, origin, entry⟩ :: world.logs }
      else world

def emitAs (world : World) (origin : String) (signals : List Signal) : World :=
  signals.foldl (fun world signal =>
    match signal with
    | .log record => world.logAs origin record
    | .metric change =>
        { world with ledger := world.ledger.record change }) world

/-- Log and measure what a step of a task showed. -/
def emit (world : World) (task : TaskId) (signals : List Signal) : World :=
  match signals with
  | [] => world
  | _ => world.emitAs (world.originOf task) signals

def record (world : World) (task : TaskId) (entry : CallEntry) : World :=
  { world with
    calls := ⟨world.now.millis, world.originOf task, entry⟩ :: world.calls }

def setStack (world : World) (task : TaskId) (stack : List Frame) : World :=
  { world with
    tasks := world.tasks.modify task (fun task => { task with stack := stack }) }

def endTask (world : World) (task : TaskId) (ending : TaskEnd) : World :=
  { world with
    tasks := world.tasks.modify task
      (fun task => { task with stack := [], ending := some ending }) }

def spawn (world : World) (origin : String) (stack : List Frame) :
    World × TaskId :=
  let id := world.tasks.size
  ({ world with
      tasks := world.tasks.push ⟨origin, stack, none⟩
      ready := world.ready ++ [id] }, id)

def hub? (world : World) (cell : Nat) : Option Hub :=
  (world.cells[cell]?).map HubCell.hub

def setHub (world : World) (cell : Nat) (hub : Hub) : World :=
  { world with
    cells := world.cells.modify cell (fun cell => { cell with hub := hub }) }

/-- Drop an operation of a hub where it stands. -/
def abandon (world : World) (task : TaskId) (cell : Nat) (id : OperationId) :
    World :=
  match world.hub? cell with
  | none => world
  | some hub =>
      let (hub, signals) := hub.abandon id
      (world.setHub cell hub).emit task signals

/-- Drop frames from the top, giving up what they hold. -/
def dropFrames (world : World) (task : TaskId) (frames : List Frame) : World :=
  frames.foldl (fun world frame =>
    match frame with
    | .operation cell id => world.abandon task cell id
    | .hold cell id _ _ => world.abandon task cell id
    | _ => world) world

/-- Give an answer to the frames below; without any the task is over. -/
def give (world : World) (task : TaskId) (answer : Answer) :
    List Frame → World
  | [] => world.endTask task (.completed answer)
  | .deadline _ :: rest => world.give task answer rest
  | .silent :: rest => world.give task .nothing rest
  | .steps todo done :: rest =>
      world.setStack task
        (.steps todo (done ++ [(world.now.millis, answer)]) :: rest)
  | .call hub id listener behaviour .running :: rest =>
      let outcomes := match answer with
        | .outcomes outcomes => outcomes
        | _ => []
      let name := match world.listeners[listener]? with
        | some cell => cell.spec.name
        | none => ""
      (world.record task (.steps name outcomes)).setStack task
        (.call hub id listener behaviour .ending :: rest)
  | stack => world.setStack task stack

/-- The handle of the listener that a step names. -/
def listener? (world : World) (key : String) : Option Listener :=
  (world.listeners.findIdx? (fun cell => cell.spec.key == key)).bind fun index =>
    (world.listeners[index]?).map fun cell => ⟨index, cell.spec.name⟩

def after (world : World) (millis : Nat) : Instant :=
  world.now + .ofMillis millis

end World
end AlarmRelay.Scenario
