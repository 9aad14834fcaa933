import AlarmRelay.Hub.Journal
import Mathlib.Logic.Relation

/-!
# What waits for what

Operations and loops wait for one another in three ways: at the lock, for the exit
of a loop, and for the end of a tick.  `WaitsFor` is one link of such a chain.  A
chain should lead to somebody who can take a step, or out of the hub, to a listener
that is being called or to the source that is being read.
-/

set_option autoImplicit false

namespace AlarmRelay

/-- Whatever takes steps inside of a hub. -/
inductive Agent where
  | operation (id : OperationId)
  | loop (id : LoopId)
  deriving DecidableEq, Repr

/-- The event in which an agent takes a step without an answer from outside. -/
def Agent.turn : Agent → HubEvent
  | .operation id => .advance id
  | .loop id => .advanceLoop id

/-- The requests that wait, the oldest first. -/
def FairLock.queue (lock : FairLock) : List Ticket :=
  lock.waiting.map LockRequest.ticket

/-- Whether the loop rests until its next tick is due, and nobody has asked it to
shut down. -/
def SnapshotLoop.dozes (loop : SnapshotLoop) : Bool :=
  match loop.phase with
  | .idle _ _ => !loop.cancelled
  | _ => false

namespace Hub

/-- Whether an agent has something to finish: every operation in flight has, and
so has every loop that is not over, unless it dozes. -/
def IsPending (hub : Hub) : Agent → Prop
  | .operation id => id ∈ hub.inFlight
  | .loop id => ∃ loop, hub.loops[id]? = some loop ∧
      loop.isFinished = false ∧ loop.dozes = false

/-- What an agent waits for. -/
inductive WaitsFor (hub : Hub) : Agent → Agent → Prop where
  /-- A request in the queue waits for whoever holds a side of the lock. -/
  | holder (id other : OperationId)
      (queued : id ∈ hub.registry.lock.queue)
      (held : hub.registry.lock.holdsShared other = true ∨
        hub.registry.lock.holdsExclusive other = true) :
      WaitsFor hub (.operation id) (.operation other)
  /-- It waits for whoever queued before it, too. -/
  | earlier (id other : OperationId) (first last : List OperationId)
      (queue : hub.registry.lock.queue = first ++ id :: last)
      (before : other ∈ first) :
      WaitsFor hub (.operation id) (.operation other)
  /-- A stop waits for the loop that it took. -/
  | joins (id : OperationId) (loop : LoopId)
      (found : hub.operation? id = some (.awaitExit loop))
      (running : hub.loopFinished loop = false) :
      WaitsFor hub (.operation id) (.loop loop)
  /-- A loop that was spawned behind another waits for it. -/
  | behind (id previous : LoopId) (cancelled : Bool)
      (found : hub.loops[id]? = some ⟨cancelled, .waiting (some previous)⟩)
      (running : hub.loopFinished previous = false) :
      WaitsFor hub (.loop id) (.loop previous)
  /-- A loop waits for the tick that it is inside of. -/
  | inside (loop : LoopId) (id : OperationId)
      (ticking : hub.loopTick? loop = some id) :
      WaitsFor hub (.loop loop) (.operation id)

/-- One agent waits for another, directly or through others. -/
abbrev WaitsOn (hub : Hub) : Agent → Agent → Prop :=
  Relation.ReflTransGen hub.WaitsFor

/-- Whether an agent can take a step, whatever the time. -/
def CanStep (hub : Hub) (agent : Agent) : Prop :=
  ∀ now, (hub.react now agent.turn).isSome = true

/-- Whether an agent is inside a listener call or the reading of the source. -/
def isOutside (hub : Hub) : Agent → Bool
  | .operation id => (hub.call? id).isSome || hub.isScanning id
  | .loop _ => false

end Hub
end AlarmRelay
