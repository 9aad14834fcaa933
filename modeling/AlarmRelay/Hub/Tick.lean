import AlarmRelay.Hub.Fleet
import AlarmRelay.Hub.Waiting

/-!
# What a tick does

The record of a tick along a run: over which listeners it was granted the lock, how
often it read the alarm source and what it got, whom it called, and how the calls
ended.  `Stands` says what the record of a tick in flight looks like, `Yields` what
that of a tick looks like which has answered.
-/

set_option autoImplicit false

namespace AlarmRelay

/-- What a tick answers if its scan of the source failed. -/
def ScanOutcome.failure? : ScanOutcome → Option String
  | .alarms _ => none
  | .failed (.unavailable text) => some ("Alarm source unavailable: " ++ text)
  | .failed (.transaction text) => some ("Transaction failed: " ++ text)
  | .failed (.query text) => some ("Query failed: " ++ text)
  | .panicked (.fixedText text) => some ("panicked: " ++ text)
  | .panicked (.builtText text) => some ("panicked: " ++ text)
  | .panicked .other => some "panicked: unknown panic payload"

/-- Whether an outcome of a tick counts under a label. -/
def TickOutcome.counts (label : String) : TickOutcome → Bool
  | .skipped => label == "skipped"
  | .delivered _ _ => label == "delivered"
  | .failed _ => label == "failed"

/-- The ticks that answered, in order, with what they came to. -/
def Mark.tickOutcomes (marks : List Mark) : List (OperationId × TickOutcome) :=
  marks.filterMap fun
    | .returned id (.tick outcome) => some (id, outcome)
    | _ => none

/-- One thing that happens to a reading of the alarm source. -/
inductive ReadMark where
  | began (id : OperationId)
  | ended (id : OperationId) (outcome : ScanOutcome)
  deriving DecidableEq, Repr

/-- The end of a reading, if an event is one. -/
def HubEvent.readEnds : HubEvent → List ReadMark
  | .answerScan id outcome => [.ended id outcome]
  | _ => []

namespace Hub

/-- What an event adds to the log of readings. -/
def readMarks (hub : Hub) (event : HubEvent) (step : Progress) :
    List ReadMark :=
  let begun := (List.range step.hub.nextOperation).filter fun id =>
    step.hub.isScanning id && !hub.isScanning id
  event.readEnds ++ begun.map .began

/-- The readings of the alarm source along a run. -/
def readings (hub : Hub) (timeline : Timeline) : List ReadMark :=
  hub.observe readMarks timeline

end Hub

namespace ReadMark

/-- How often an operation began to read the source. -/
def begun (id : OperationId) (log : List ReadMark) : Nat :=
  log.count (.began id)

/-- What an operation got from the source, in order. -/
def answers (id : OperationId) (log : List ReadMark) : List ScanOutcome :=
  log.filterMap fun
    | .ended other outcome => if other = id then some outcome else none
    | .began _ => none

end ReadMark

/-- Everything that a tick has done. -/
structure TickRecord where
  /-- The listeners at each grant of the lock. -/
  admissions : List (List Listener)
  /-- How often it began to read the source. -/
  reads : Nat
  answers : List ScanOutcome
  calls : List (Listener × Delivery)
  outcomes : List CallOutcome
  deriving DecidableEq, Repr

namespace TickRecord

def of (id : OperationId) (journal : List Mark) (log : List ReadMark) :
    TickRecord where
  admissions := Mark.admissions id journal
  reads := ReadMark.begun id log
  answers := ReadMark.answers id log
  calls := Mark.calls id journal
  outcomes := Mark.outcomes id journal

/-- The report of calls that ended with these outcomes. -/
def report (outcomes : List CallOutcome) : DispatchReport :=
  ⟨outcomes.length, outcomes.countP CallOutcome.isFault⟩

/-- The calls that hand a scan to some listeners, in order. -/
def handing (alarms : List Alarm) (listeners : List Listener) :
    List (Listener × Delivery) :=
  listeners.map fun listener => (listener, .snapshot alarms)

/-- How far a tick has got; `held` says whether it holds the lock, over the
listeners `members`. -/
inductive Stands (held : Bool) (members : List Listener) :
    TickPhase → TickRecord → Prop where
  | waits (unheld : held = false) :
      Stands held members .checking ⟨[], 0, [], [], []⟩
  | enters (holds : held = true) :
      Stands held members .checking ⟨[members], 0, [], [], []⟩
  /-- It found somebody and reads the source, for the first time. -/
  | reads (first : List Listener) (somebody : first ≠ []) :
      Stands held members .scanning ⟨[first], 1, [], [], []⟩
  /-- The source gave it a list, and it waits for the lock again. -/
  | fetched (first : List Listener) (alarms : List Alarm)
      (somebody : first ≠ []) (unheld : held = false) :
      Stands held members (.delivering alarms .awaitingLock)
        ⟨[first], 1, [.alarms alarms], [], []⟩
  | reenters (first : List Listener) (alarms : List Alarm)
      (somebody : first ≠ []) (holds : held = true) :
      Stands held members (.delivering alarms .awaitingLock)
        ⟨[first, members], 1, [.alarms alarms], [], []⟩
  /-- It is done with some listeners and inside the call to the next one. -/
  | calls (first : List Listener) (alarms : List Alarm)
      (done pending : List Listener) (outcomes : List CallOutcome)
      (somebody : first ≠ []) (holds : held = true)
      (everybody : members = done ++ pending)
      (heard : outcomes.length = done.length) :
      Stands held members
        (.delivering alarms (.calling pending (report outcomes)))
        ⟨[first, members], 1, [.alarms alarms],
          handing alarms (done ++ pending.head?.toList), outcomes⟩

/-- What a tick has done that answered with an outcome. -/
inductive Yields : TickRecord → TickOutcome → Prop where
  /-- Nobody was there: the source was not read. -/
  | skipped : Yields ⟨[[]], 0, [], [], []⟩ .skipped
  /-- The source failed: nobody was called. -/
  | failed (first : List Listener) (scan : ScanOutcome) (message : String)
      (somebody : first ≠ []) (fault : scan.failure? = some message) :
      Yields ⟨[first], 1, [scan], [], []⟩ (.failed message)
  /-- Everybody who was there at the second grant was handed the scan once. -/
  | delivered (first second : List Listener) (alarms : List Alarm)
      (outcomes : List CallOutcome) (somebody : first ≠ [])
      (heard : outcomes.length = second.length) :
      Yields ⟨[first, second], 1, [.alarms alarms], handing alarms second,
          outcomes⟩
        (.delivered alarms.length (report outcomes))

end TickRecord

namespace Signal

/-- The outcomes of ticks that were counted, in order. -/
def tickLabels (signals : List Signal) : List String :=
  signals.filterMap fun
    | .metric (.tick label) => some label
    | _ => none

end Signal

/-- A run without end. -/
structure Journey where
  hubs : Nat → Hub
  times : Nat → Instant
  events : Nat → HubEvent
  goes : ∀ index, ∃ step,
    (hubs index).react (times index) (events index) = some step ∧
      hubs (index + 1) = step.hub

namespace Hub

/-- Whether it is up to an operation, or to what it called, to go on: it can take a
step, a listener or the source has to answer it, or its holder to give it up. -/
def IsDue (hub : Hub) (id : OperationId) : Prop :=
  (hub.advance id).isSome = true ∨ hub.isOutside (.operation id) = true ∨
    hub.operation? id = some .borrow ∧
      hub.registry.lock.holdsShared id = true

/-- Whether an event drops a tick: its caller does, or the runtime is lost on which
a loop is inside of it. -/
def Drops (hub : Hub) (event : HubEvent) (id : OperationId) : Prop :=
  event = .abandon id ∨ event = .loseRuntime ∧ id ∈ hub.scheduledTicks

end Hub

namespace Journey

/-- The first events of a journey. -/
def opening (journey : Journey) (count : Nat) : Timeline :=
  (List.range count).map fun index =>
    (journey.times index, journey.events index)

/-- Whoever can go on does so at some time, listeners and the source answer, and
nobody keeps the lock for ever. -/
def IsFair (journey : Journey) : Prop :=
  ∀ index id, (journey.hubs index).IsDue id →
    ∃ later, index ≤ later ∧
      (journey.hubs later).operation? id ≠ (journey.hubs index).operation? id

end Journey
end AlarmRelay
