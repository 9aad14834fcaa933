import AlarmRelay.Hub.Run

/-!
# What a run shows

Observers of a run: the loops that enter their schedule, the ticks that loops
begin, the listeners that join the registry, and the journal, which says in
order what became of every operation and of every listener call.  Each observer
compares the hub before and after an event, so none of them depends on which
step of an operation caused the difference.
-/

set_option autoImplicit false

namespace AlarmRelay

namespace SnapshotLoop

/-- Whether the loop has entered its schedule and is not over. -/
def isInside (loop : SnapshotLoop) : Bool :=
  match loop.phase with
  | .idle _ _ | .ticking _ _ _ => true
  | .waiting _ | .finished _ => false

/-- The tick that the loop is inside of. -/
def tick? (loop : SnapshotLoop) : Option OperationId :=
  match loop.phase with
  | .ticking _ _ operation => some operation
  | _ => none

/-- Whether the loop is not over and nobody has asked it to shut down. -/
def isLive (loop : SnapshotLoop) : Bool :=
  !loop.isFinished && !loop.cancelled

end SnapshotLoop

/-- Whether a listener call erred or panicked. -/
def CallOutcome.isFault : CallOutcome → Bool
  | .accepted => false
  | .failed _ | .panicked _ => true

/-- The report of a fan-out inside an answer. -/
def Reply.report? : Reply → Option DispatchReport
  | .report made => some made
  | .tick (.delivered _ made) => some made
  | _ => none

/-- One line of the journal of a run. -/
inductive Mark where
  /-- An operation began. -/
  | requested (id : OperationId) (operation : Operation)
  /-- The shared side of the lock was granted, over this list of listeners. -/
  | admitted (id : OperationId) (listeners : List Listener)
  /-- A listener call began. -/
  | began (id : OperationId) (listener : Listener) (delivery : Delivery)
  /-- A listener call ended. -/
  | ended (id : OperationId) (listener : Listener) (delivery : Delivery)
      (outcome : CallOutcome)
  /-- An operation answered. -/
  | returned (id : OperationId) (reply : Reply)
  /-- An operation was dropped before it answered. -/
  | dropped (id : OperationId)
  deriving DecidableEq, Repr

/-- The operation that a line of the journal is about. -/
def Mark.id : Mark → OperationId
  | .requested id _ | .admitted id _ | .began id _ _ | .ended id _ _ _
  | .returned id _ | .dropped id => id

namespace Hub

/-- Whether a loop has entered its schedule and is not over. -/
def isInside (hub : Hub) (id : LoopId) : Bool :=
  (hub.loops[id]?).any SnapshotLoop.isInside

/-- Whether a loop is not over and nobody has asked it to shut down. -/
def isLive (hub : Hub) (id : LoopId) : Bool :=
  (hub.loops[id]?).any SnapshotLoop.isLive

/-- The ticks that loops are inside of. -/
def scheduledTicks (hub : Hub) : List OperationId :=
  hub.loops.filterMap SnapshotLoop.tick?

/-- The names of the operations in flight. -/
def inFlight (hub : Hub) : List OperationId :=
  hub.operations.map Prod.fst

/-- The loops that entered their schedule along a run, in order. -/
def entries (hub : Hub) (timeline : Timeline) : List LoopId :=
  hub.observe (fun before _ step =>
    (List.range step.hub.loops.length).filter fun id =>
      step.hub.isInside id && !before.isInside id) timeline

/-- The ticks that loops began along a run, in order. -/
def ticksBegun (hub : Hub) (timeline : Timeline) : List OperationId :=
  hub.observe (fun before _ step =>
    step.hub.scheduledTicks.filter fun id =>
      !before.scheduledTicks.contains id) timeline

/-- The listeners that joined the registry along a run, in order. -/
def joined (hub : Hub) (timeline : Timeline) : List Listener :=
  hub.observe (fun before _ step =>
    step.hub.registry.listeners.filter fun listener =>
      !before.registry.listeners.contains listener) timeline

/-- The operation whose listener calls an event may move on. -/
def subject? (hub : Hub) : HubEvent → Option OperationId
  | .advance id | .answerCall id _ => some id
  | .advanceLoop loop => hub.loopTick? loop
  | _ => none

/-- The end of a listener call, if an event is one. -/
def endMarks (hub : Hub) : HubEvent → List Mark
  | .answerCall id outcome =>
      (hub.call? id).toList.map fun call => .ended id call.1 call.2 outcome
  | _ => []

/-- What an event adds to the journal.  An operation that is gone has answered
if the event gave an answer and was dropped otherwise. -/
def marks (hub : Hub) (event : HubEvent) (step : Progress) : List Mark :=
  let next := step.hub
  let gone := hub.inFlight.filter fun id => !next.inFlight.contains id
  let fresh := next.operations.filter fun entry => hub.nextOperation ≤ entry.1
  let granted := next.registry.lock.readers.filter fun id =>
    !hub.registry.lock.readers.contains id
  let calling := (hub.subject? event).bind fun id =>
    (next.call? id).map fun call => Mark.began id call.1 call.2
  hub.endMarks event
    ++ gone.map (fun id => (step.reply.map (Mark.returned id)).getD (.dropped id))
    ++ fresh.map (fun entry => .requested entry.1 entry.2)
    ++ granted.map (fun id => .admitted id next.registry.listeners)
    ++ calling.toList

/-- The journal of a run. -/
def journal (hub : Hub) (timeline : Timeline) : List Mark :=
  hub.observe marks timeline

end Hub

namespace Mark

/-- The lines of a journal about one operation. -/
def about (id : OperationId) (marks : List Mark) : List Mark :=
  marks.filter fun mark => mark.id == id

/-- The calls that an operation began, in order. -/
def calls (id : OperationId) (marks : List Mark) :
    List (Listener × Delivery) :=
  marks.filterMap fun
    | .began other listener delivery =>
        if other = id then some (listener, delivery) else none
    | _ => none

/-- The calls of an operation that ended, in order, with their outcomes. -/
def endings (id : OperationId) (marks : List Mark) :
    List ((Listener × Delivery) × CallOutcome) :=
  marks.filterMap fun
    | .ended other listener delivery outcome =>
        if other = id then some ((listener, delivery), outcome) else none
    | _ => none

/-- The calls of an operation that ended, in order. -/
def endedCalls (id : OperationId) (marks : List Mark) :
    List (Listener × Delivery) :=
  (endings id marks).map Prod.fst

/-- The outcomes of the calls of an operation, in order. -/
def outcomes (id : OperationId) (marks : List Mark) : List CallOutcome :=
  (endings id marks).map Prod.snd

/-- The lists of listeners over which an operation was granted the shared side,
in order. -/
def admissions (id : OperationId) (marks : List Mark) : List (List Listener) :=
  marks.filterMap fun
    | .admitted other listeners => if other = id then some listeners else none
    | _ => none

/-- The listeners over which an operation was granted the shared side last. -/
def admission? (id : OperationId) (marks : List Mark) :
    Option (List Listener) :=
  (admissions id marks).getLast?

/-- Every call that began, in order: who was handed what. -/
def handed (marks : List Mark) : List (Listener × Delivery) :=
  marks.filterMap fun
    | .began _ listener delivery => some (listener, delivery)
    | _ => none

/-- How the calls ended, in order. -/
def verdicts (marks : List Mark) : List CallOutcome :=
  marks.filterMap fun
    | .ended _ _ _ outcome => some outcome
    | _ => none

/-- The answers of operations, in order. -/
def replies (marks : List Mark) : List Reply :=
  marks.filterMap fun
    | .returned _ reply => some reply
    | _ => none

/-- What a listener was handed, in order. -/
def received (listener : Listener) (marks : List Mark) : List Delivery :=
  marks.filterMap fun
    | .began _ other delivery =>
        if other.isSame listener then some delivery else none
    | _ => none

end Mark
end AlarmRelay
