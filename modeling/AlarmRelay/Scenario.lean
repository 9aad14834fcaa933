import AlarmRelay.Failure
import AlarmRelay.Hub
import AlarmRelay.Store.Calls

/-!
# Scenarios

A scenario is a scripted run of hubs, listeners, a store and a producer on a
virtual clock.  Its steps run one after another in a main task; steps may spawn
further tasks, and the calls of a scripted listener may run steps of their own.
-/

set_option autoImplicit false

namespace AlarmRelay.Scenario

inductive HubSpec where
  | standard
  | configured (millis : Nat)
  /-- A registry, a dispatcher and a scheduler without a hub around them. -/
  | parts (millis : Nat)
  deriving Repr

inductive HubRequest where
  | subscribe (listener : String)
  | unsubscribe (listener : String)
  | count
  | publish (event : AlarmEvent)
  | snapshot
  | inspect
  | start
  | stop
  | running
  | release
  | isEmpty
  | names
  | interval
  | cancel
  | hold (millis : Nat)
  | deliver (delivery : Delivery) (cause : String)
  /-- A request that nothing understands. -/
  | unknown (name : String)
  deriving Repr

inductive ProducerRequest where
  | create (poolSize : UInt32) (listener : String)
  | step (count : Nat)
  | run (millis : Nat)
  | cancel
  | snapshot
  deriving Repr

inductive Step where
  | hub (index : Nat) (request : HubRequest)
  | store (call : StoreCall)
  | producer (request : ProducerRequest)
  | sleep (millis : Nat)
  | spawn (tag : String) (steps : List Step)
  | join (tag : String)
  | finished (tag : String)
  | abort (tag : String)
  | metrics
  | received (listener : String)
  /-- A step that is dropped if it is not over in time. -/
  | within (millis : Nat) (step : Step)

instance : Inhabited Step := ⟨.sleep 0⟩

structure Behaviour where
  delay : Option Nat
  steps : Option (List Step)
  outcome : CallOutcome

/-- A call that accepts its notification at once. -/
def Behaviour.plain : Behaviour := ⟨none, none, .accepted⟩

/-- What a scripted source scan ends in. -/
inductive ScanResult where
  /-- It reads the store. -/
  | read
  | failed (error : SourceError)
  | panicked (payload : PanicPayload)
  deriving Repr

structure ScanBehaviour where
  delay : Option Nat
  result : ScanResult
  deriving Repr

/-- A scan that reads the store at once. -/
def ScanBehaviour.plain : ScanBehaviour := ⟨none, .read⟩

/-- What a listener of a scenario does with its calls. -/
inductive ListenerKind where
  /-- It records its calls and follows its behaviours. -/
  | scripted
  /-- It writes every notification to the log. -/
  | tracing
  /-- It counts what it receives. -/
  | counting
  deriving DecidableEq, Repr

structure ListenerSpec where
  key : String
  kind : ListenerKind
  name : String
  /-- Whether its calls are recorded with alarm ids only. -/
  brief : Bool
  /-- Whether its calls are recorded with the stored alarm beside them. -/
  observe : Bool
  /-- One behaviour per call; later calls are plain. -/
  behaviours : List Behaviour

structure Script where
  hubs : List HubSpec
  alarms : List Alarm
  /-- One behaviour per scan; later scans are plain. -/
  source : List ScanBehaviour
  listeners : List ListenerSpec
  /-- The most verbose level of the log that is kept. -/
  level : Option LogLevel
  steps : List Step
  /-- The reading of the wall clock during the run. -/
  clock : Timestamp

inductive Answer where
  | nothing
  | flag (value : Bool)
  | number (value : Nat)
  | text (value : String)
  | texts (values : List String)
  | alarm (alarm : Option Alarm)
  | alarms (alarms : List Alarm)
  | report (report : DispatchReport)
  | tick (outcome : TickOutcome)
  | ledger (ledger : Ledger)
  /-- The answers of the steps of a task with the milliseconds at which they
  were given. -/
  | outcomes (outcomes : List (Nat × Answer))
  | timeout
  | noHub
  | hubError (error : HubError)
  | unknownStep (name : String)

inductive AlarmView where
  | id (id : AlarmId)
  | full (alarm : Alarm)
  deriving Repr

/-- What a listener or the source records of its calls. -/
inductive CallEntry where
  | snapshot (name : String) (alarms : List AlarmView)
  /-- `stored` is what the store held at that moment, if that is observed. -/
  | upsert (name : String) (alarm : AlarmView)
      (stored : Option (Option AlarmView))
  | delete (name : String) (id : AlarmId) (reductionKey : String)
      (stored : Option (Option AlarmView))
  | scan
  | done (name : String)
  | steps (name : String) (outcomes : List (Nat × Answer))

/-- Something that happened at a millisecond in a named task. -/
structure Happening (α : Type) where
  time : Nat
  origin : String
  what : α

/-- What one step of the main task answered and what happened meanwhile. -/
structure Element where
  time : Nat
  answer : Answer
  calls : List (Happening CallEntry)
  logs : List (Happening LogEntry)

structure Record where
  created : List (Except HubError Unit)
  logs : List (Happening LogEntry)
  elements : List Element

end AlarmRelay.Scenario
