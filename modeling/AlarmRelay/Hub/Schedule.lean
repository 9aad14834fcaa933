import AlarmRelay.Hub.Journal

/-!
# When loops run

The moments of a loop's life with the instants at which they come, the schedule
that its ticks are meant to keep, and clocks that keep up with it: time does not
pass the instant at which a loop between its ticks takes its next step by itself.
Inside a tick any time may pass.
-/

set_option autoImplicit false

namespace AlarmRelay

/-- The span from one instant to a later one. -/
def Duration.since (earlier later : Instant) : Duration :=
  ⟨later.nanos - earlier.nanos⟩

/-- What happens to a loop in one event. -/
inductive Moment where
  | spawned
  /-- It enters its schedule. -/
  | entered
  /-- A tick begins. -/
  | began
  /-- A tick ends, and the loop goes on. -/
  | ended
  | over
  deriving DecidableEq, Repr

namespace SnapshotLoop

/-- The moment between two states of a loop; nothing before it is spawned. -/
def moment? (before after : Option SnapshotLoop) : Option Moment :=
  match before.map phase, after.map phase with
  | none, some _ => some .spawned
  | some (.finished _), _ => none
  | some _, some (.finished _) => some .over
  | some (.waiting _), some (.idle _ _) => some .entered
  | some (.idle _ _), some (.ticking _ _ _) => some .began
  | some (.ticking _ _ _), some (.idle _ _) => some .ended
  | _, _ => none

/-- The instant at which tick number `ticks` is to begin, if tick number `n` takes
`lengths n`: when it is due, or at the end of the tick before if that is later. -/
def scheduledAt (origin : Instant) (interval : Duration)
    (lengths : Nat → Duration) : Nat → Instant
  | 0 => origin
  | ticks + 1 => max (dueAt origin interval (ticks + 1))
      (scheduledAt origin interval lengths ticks + lengths ticks)

end SnapshotLoop

/-- The moments of a loop along a run, each with its instant. -/
abbrev Life := List (Moment × Instant)

namespace Life

/-- The instants of one kind of moment, in order. -/
def instants (life : Life) (moment : Moment) : List Instant :=
  life.filterMap fun entry => if entry.1 = moment then some entry.2 else none

/-- How long tick number `tick` took. -/
def tickLength (life : Life) (tick : Nat) : Duration :=
  Duration.since ((life.instants .began).getD tick .zero)
    ((life.instants .ended).getD tick .zero)

end Life

namespace Hub

/-- What a loop lives through in one event at `now`. -/
def moments (hub next : Hub) (now : Instant) (loop : LoopId) : Life :=
  (SnapshotLoop.moment? hub.loops[loop]? next.loops[loop]?).toList.map
    fun moment => (moment, now)

/-- The life of a loop along a run. -/
def life (hub : Hub) (loop : LoopId) : Timeline → Life
  | [] => []
  | (now, event) :: rest =>
      match hub.react now event with
      | none => []
      | some step => hub.moments step.hub now loop ++ step.hub.life loop rest

/-- The instant beyond which a loop does not wait for its next step, at `clock`:
it enters its schedule once the loop before it is over, and it begins a tick when
that is due. -/
def loopWake? (hub : Hub) (loop : LoopId) (clock : Instant) : Option Instant :=
  match hub.loops[loop]? with
  | some ⟨_, .waiting previous⟩ =>
      if (previous.map hub.loopFinished).getD true then some clock else none
  | some ⟨false, .idle origin ticks⟩ =>
      some (max clock (SnapshotLoop.dueAt origin hub.interval ticks))
  | _ => none

/-- Whether time may pass from `clock` to `now`: it does not go back and leaves no
step of the loop behind. -/
def keepsUp (hub : Hub) (loop : LoopId) (clock now : Instant) : Bool :=
  decide (clock ≤ now) && (hub.loopWake? loop clock).all fun wake => now ≤ wake

/-- Whether a run from `clock` to `final` keeps up with a loop. -/
def isPunctual (hub : Hub) (loop : LoopId) (clock final : Instant) :
    Timeline → Bool
  | [] => hub.keepsUp loop clock final
  | (now, event) :: rest =>
      hub.keepsUp loop clock now &&
        match hub.react now event with
        | none => true
        | some step => step.hub.isPunctual loop now final rest

end Hub
end AlarmRelay
