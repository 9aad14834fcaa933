import AlarmRelay.Operation

/-!
# Snapshot loops

A loop first waits for the loop spawned before it, then ticks at a fixed rate:
tick `n` is due `n` intervals after the loop began, and overdue ticks follow one
another at once.  Cancellation is looked at before every tick.
-/

set_option autoImplicit false

namespace AlarmRelay

inductive LoopEnd where
  /-- It saw its cancellation. -/
  | exited
  /-- Its runtime was lost. -/
  | killed
  /-- It refused an empty interval. -/
  | panicked
  deriving DecidableEq, Repr

inductive LoopPhase where
  /-- Spawned; it begins once the previous loop has ended. -/
  | waiting (previous : Option LoopId)
  /-- Between ticks; it began at `origin` and ran so many ticks. -/
  | idle (origin : Instant) (ticks : Nat)
  /-- Inside tick number `ticks`. -/
  | ticking (origin : Instant) (ticks : Nat) (operation : OperationId)
  | finished (result : LoopEnd)
  deriving DecidableEq, Repr

structure SnapshotLoop where
  cancelled : Bool
  phase : LoopPhase
  deriving DecidableEq, Repr

namespace SnapshotLoop

def spawned (previous : Option LoopId) : SnapshotLoop :=
  ⟨false, .waiting previous⟩

def isFinished (loop : SnapshotLoop) : Bool :=
  match loop.phase with
  | .finished _ => true
  | _ => false

/-- Whether the loop is inside the tick that runs as `operation`. -/
def isTicking (loop : SnapshotLoop) (operation : OperationId) : Bool :=
  match loop.phase with
  | .ticking _ _ current => current == operation
  | _ => false

/-- The loop once the tick that ran as `operation` is over. -/
def tickEnded (operation : OperationId) (loop : SnapshotLoop) : SnapshotLoop :=
  match loop.phase with
  | .ticking origin ticks current =>
      if current == operation then { loop with phase := .idle origin (ticks + 1) }
      else loop
  | _ => loop

/-- The instant at which tick number `ticks` is due. -/
def dueAt (origin : Instant) (interval : Duration) (ticks : Nat) : Instant :=
  origin + interval.repeated ticks

def cancel (loop : SnapshotLoop) : SnapshotLoop :=
  { loop with cancelled := true }

def enter (phase : LoopPhase) (loop : SnapshotLoop) : SnapshotLoop :=
  { loop with phase := phase }

end SnapshotLoop
end AlarmRelay
