import AlarmRelay.Hub.Schedule

/-!
# The pace of ticks

Ticks that begin when they are due, or when the tick before has ended if that is
later.  `beginsAt` says so over the ends that a loop has seen, and
`SnapshotLoop.scheduledAt` over the lengths of its ticks.
-/

set_option autoImplicit false

namespace AlarmRelay

namespace Duration

theorem nanos_inj (first second : Duration) :
    first = second ↔ first.nanos = second.nanos := by
  cases first
  cases second
  simp

theorem le_nanos (first second : Duration) :
    first ≤ second ↔ first.nanos ≤ second.nanos := Iff.rfl

theorem max_nanos (first second : Duration) :
    (max first second).nanos = max first.nanos second.nanos := by
  have unfolded : max first second =
      if first ≤ second then second else first := rfl
  rw [unfolded]
  split
  · rename_i ordered
    exact (Nat.max_eq_right ordered).symm
  · rename_i ordered
    exact (Nat.max_eq_left (Nat.le_of_not_le ordered)).symm

theorem max_of_le (first second : Duration) (ordered : first ≤ second) :
    max first second = second := by
  rw [nanos_inj, max_nanos]
  exact Nat.max_eq_right ordered

theorem max_of_ge (first second : Duration) (ordered : second ≤ first) :
    max first second = first := by
  rw [nanos_inj, max_nanos]
  exact Nat.max_eq_left ordered

theorem le_max_left (first second : Duration) : first ≤ max first second := by
  rw [le_nanos, max_nanos]
  exact Nat.le_max_left _ _

theorem le_max_right (first second : Duration) : second ≤ max first second := by
  rw [le_nanos, max_nanos]
  exact Nat.le_max_right _ _

theorem max_le (first second bound : Duration) (left : first ≤ bound)
    (right : second ≤ bound) : max first second ≤ bound := by
  rw [le_nanos, max_nanos]
  exact Nat.max_le.mpr ⟨left, right⟩

theorem le_trans (first second third : Duration) (one : first ≤ second)
    (other : second ≤ third) : first ≤ third :=
  Nat.le_trans one other

theorem le_antisymm (first second : Duration) (one : first ≤ second)
    (other : second ≤ first) : first = second :=
  (nanos_inj first second).mpr (Nat.le_antisymm one other)

theorem add_since (earlier later : Instant) (ordered : earlier ≤ later) :
    earlier + since earlier later = later := by
  rw [nanos_inj]
  exact Nat.add_sub_cancel' ordered

end Duration

/-! ## Paces -/

namespace Life

theorem instants_append (first second : Life) (moment : Moment) :
    instants (first ++ second) moment =
      first.instants moment ++ second.instants moment := by
  simp [instants]

end Life

/-- The instant at which tick number `ticks` begins, given when the ticks before it
ended. -/
def beginsAt (origin : Instant) (interval : Duration) (ends : List Instant) :
    Nat → Instant
  | 0 => origin
  | ticks + 1 => max (SnapshotLoop.dueAt origin interval (ticks + 1))
      (ends.getD ticks .zero)

/-- Ticks that began and ended as they should have. -/
structure Paced (origin : Instant) (interval : Duration)
    (starts ends : List Instant) : Prop where
  timely : ∀ (tick : Nat) (begun : Instant), starts[tick]? = some begun →
    tick ≤ ends.length ∧ begun = beginsAt origin interval ends tick
  begun : ∀ (tick : Nat) (ended : Instant), ends[tick]? = some ended →
    ∃ begun, starts[tick]? = some begun ∧ begun ≤ ended

section

variable (origin : Instant) (interval : Duration) (starts ends : List Instant)

theorem dueAt_zero : SnapshotLoop.dueAt origin interval 0 = origin := by
  rw [Duration.nanos_inj]
  simp only [SnapshotLoop.dueAt, Duration.repeated, Nat.zero_mul]
  rfl

theorem dueAt_succ (tick : Nat) :
    SnapshotLoop.dueAt origin interval (tick + 1) =
      SnapshotLoop.dueAt origin interval tick + interval := by
  rw [Duration.nanos_inj]
  have stretched : origin.nanos + (tick + 1) * interval.nanos =
      origin.nanos + tick * interval.nanos + interval.nanos := by
    rw [Nat.succ_mul, Nat.add_assoc]
  exact stretched

theorem dueAt_le_beginsAt (tick : Nat) :
    SnapshotLoop.dueAt origin interval tick ≤
      beginsAt origin interval ends tick := by
  cases tick with
  | zero =>
      rw [dueAt_zero]
      exact Nat.le_refl _
  | succ tick => exact Duration.le_max_left _ _

theorem beginsAt_append (tick : Nat) (now : Instant)
    (within : tick ≤ ends.length) :
    beginsAt origin interval (ends ++ [now]) tick =
      beginsAt origin interval ends tick := by
  cases tick with
  | zero => rfl
  | succ tick =>
      have known : tick < ends.length := within
      simp [beginsAt, List.getD, List.getElem?_append_left known]

/-- A tick begins no later than at `now` if it is due and the one before has
ended. -/
theorem beginsAt_le (now : Instant)
    (due : SnapshotLoop.dueAt origin interval ends.length ≤ now)
    (past : ∀ ended ∈ ends, ended ≤ now) :
    beginsAt origin interval ends ends.length ≤ now := by
  cases ends with
  | nil => exact dueAt_zero origin interval ▸ due
  | cons head rest =>
      apply Duration.max_le _ _ _ due
      have known : rest.length < (head :: rest).length := Nat.lt_succ_self _
      have last : (head :: rest).getD rest.length .zero =
          (head :: rest)[rest.length] := by
        simp only [List.getD, List.getElem?_eq_getElem known, Option.getD_some]
      rw [last]
      exact past _ (List.getElem_mem known)

theorem paced_nil : Paced origin interval [] [] where
  timely := by intro tick begun found; cases found
  begun := by intro tick ended found; cases found

theorem paced_begin (now : Instant) (paced : Paced origin interval starts ends)
    (level : starts.length = ends.length)
    (timely : now = beginsAt origin interval ends ends.length) :
    Paced origin interval (starts ++ [now]) ends where
  timely := by
    intro tick begun found
    rw [List.getElem?_append] at found
    split at found
    · exact paced.timely tick begun found
    · rename_i beyond
      obtain ⟨within, here⟩ := List.getElem?_eq_some_iff.mp found
      rw [List.length_singleton] at within
      have place : tick = ends.length := by omega
      subst place
      rw [List.getElem_singleton] at here
      exact ⟨Nat.le_refl _, by rw [← here]; exact timely⟩
  begun := by
    intro tick ended found
    obtain ⟨begun, present, ordered⟩ := paced.begun tick ended found
    have within := (List.getElem?_eq_some_iff.mp present).1
    exact ⟨begun, by rw [List.getElem?_append_left within, present], ordered⟩

theorem paced_end (now : Instant) (paced : Paced origin interval starts ends)
    (ahead : starts.length = ends.length + 1)
    (past : ∀ begun ∈ starts, begun ≤ now) :
    Paced origin interval starts (ends ++ [now]) where
  timely := by
    intro tick begun found
    obtain ⟨within, timely⟩ := paced.timely tick begun found
    rw [beginsAt_append origin interval ends tick now within]
    exact ⟨by rw [List.length_append]; omega, timely⟩
  begun := by
    intro tick ended found
    rw [List.getElem?_append] at found
    split at found
    · exact paced.begun tick ended found
    · rename_i beyond
      obtain ⟨within, here⟩ := List.getElem?_eq_some_iff.mp found
      rw [List.length_singleton] at within
      rw [List.getElem_singleton] at here
      have known : tick < starts.length := by omega
      refine ⟨starts[tick], List.getElem?_eq_getElem known, ?_⟩
      rw [← here]
      exact past _ (List.getElem_mem known)

/-- Ticks that have all ended began before they ended. -/
theorem paced_past (now : Instant) (paced : Paced origin interval starts ends)
    (level : starts.length = ends.length) (past : ∀ ended ∈ ends, ended ≤ now) :
    ∀ begun ∈ starts, begun ≤ now := by
  intro begun known
  obtain ⟨tick, within, here⟩ := List.mem_iff_getElem.mp known
  have ceased : ends[tick]? = some (ends.get ⟨tick, level ▸ within⟩) :=
    List.getElem?_eq_getElem _
  obtain ⟨same, began, ordered⟩ := paced.begun tick _ ceased
  rw [List.getElem?_eq_getElem within, here] at began
  cases began
  exact Duration.le_trans _ _ _ ordered (past _ (List.getElem_mem _))

/-- Begun one after the other, ticks follow the schedule of their lengths. -/
theorem paced_scheduled (life : Life)
    (paced : Paced origin interval (life.instants .began)
      (life.instants .ended)) (tick : Nat)
    (within : tick ≤ (life.instants .ended).length) :
    beginsAt origin interval (life.instants .ended) tick =
      SnapshotLoop.scheduledAt origin interval life.tickLength tick := by
  induction tick with
  | zero => rfl
  | succ tick ih =>
      have known : tick < (life.instants .ended).length := within
      have ended : (life.instants .ended)[tick]? =
          some (life.instants .ended)[tick] := List.getElem?_eq_getElem known
      obtain ⟨begun, began, ordered⟩ := paced.begun tick _ ended
      have timely := (paced.timely tick begun began).2
      have length : life.tickLength tick =
          Duration.since begun (life.instants .ended)[tick] := by
        simp [Life.tickLength, List.getD, began, ended]
      rw [SnapshotLoop.scheduledAt, ← ih (Nat.le_of_lt known), ← timely, length,
        Duration.add_since _ _ ordered]
      simp [beginsAt, List.getD, ended]

end

end AlarmRelay
