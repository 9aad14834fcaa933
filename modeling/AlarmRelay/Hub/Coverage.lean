import AlarmRelay.Hub.Schedule
import AlarmRelay.Hub.Tick

/-!
# Newcomers

A listener that joins between two looks of a loop at the registry waits for the
next tick to be told anything.  Here is what one has to see of a run to say for how
long: the ticks that a loop begins, with their instants, the instants at which a
listener joins for good, and what a tick does for it.
-/

set_option autoImplicit false

namespace AlarmRelay

/-- Whether a reading of the source, once it ends, gives a list. -/
def ReadMark.succeeds : ReadMark → Bool
  | .began _ => true
  | .ended _ outcome => outcome.failure?.isNone

/-- On a run until `last`, no tick of a loop that entered its schedule at `origin`
goes on beyond the instant at which the next one is due. -/
def Life.IsBrisk (life : Life) (origin : Instant) (interval : Duration)
    (last : Instant) : Prop :=
  ∀ tick < (life.instants .began).length,
    (life.instants .ended).getD tick last ≤
      SnapshotLoop.dueAt origin interval (tick + 1)

instance (life : Life) (origin : Instant) (interval : Duration)
    (last : Instant) : Decidable (life.IsBrisk origin interval last) :=
  inferInstanceAs (Decidable (∀ tick < (life.instants .began).length,
    (life.instants .ended).getD tick last ≤
      SnapshotLoop.dueAt origin interval (tick + 1)))

namespace Hub

/-- The ticks that a loop began along a run, in order, each with its instant. -/
def beginnings (hub : Hub) (loop : LoopId) :
    Timeline → List (Instant × OperationId)
  | [] => []
  | (now, event) :: rest =>
      match hub.react now event with
      | none => []
      | some step =>
          let begun :=
            if SnapshotLoop.moment? hub.loops[loop]? step.hub.loops[loop]? =
              some .began then step.hub.loopTick? loop
            else none
          begun.toList.map (fun id => (now, id)) ++ step.hub.beginnings loop rest

/-- Whether a listener is registered at every point of a run. -/
def keepsRegistered (hub : Hub) (listener : Listener) : Timeline → Bool
  | [] => hub.registry.listeners.contains listener
  | (now, event) :: rest =>
      hub.registry.listeners.contains listener &&
        match hub.react now event with
        | none => true
        | some step => step.hub.keepsRegistered listener rest

/-- The instants at which a listener joined the registry to stay there for the rest
of a run. -/
def arrivals (hub : Hub) (listener : Listener) : Timeline → List Instant
  | [] => []
  | (now, event) :: rest =>
      match hub.react now event with
      | none => []
      | some step =>
          (if !hub.registry.listeners.contains listener &&
            step.hub.keepsRegistered listener rest then [now] else []) ++
              step.hub.arrivals listener rest

/-- On a run from `start` to `hub` until `last`, a tick of a loop covers a listener
that joined at `joined`. -/
structure Covers (start hub : Hub) (timeline : Timeline) (loop : LoopId)
    (listener : Listener) (joined last : Instant) (tick : OperationId) :
    Prop where
  /-- It began within one interval. -/
  begins : ∃ begun, (begun, tick) ∈ start.beginnings loop timeline ∧
    begun ≤ joined + start.interval
  /-- Whenever it looks at the registry, the listener is there. -/
  sees : ∀ members ∈ Mark.admissions tick (start.journal timeline),
    listener ∈ members
  /-- The loop is still inside of it, which it is not for longer than one more
  interval, or the tick has handed everything that the source gave it to the
  listener. -/
  hands : (hub.loopTick? loop = some tick ∧
      last ≤ joined + start.interval + start.interval) ∨
    ∃ alarms report,
      .returned tick (.tick (.delivered alarms.length report)) ∈
          start.journal timeline ∧
        ReadMark.answers tick (start.readings timeline) = [.alarms alarms] ∧
        (listener, .snapshot alarms) ∈ Mark.calls tick (start.journal timeline)

end Hub
end AlarmRelay
