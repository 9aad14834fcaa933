import AlarmRelay.Producer.Cycle

/-!
# Going round the pool

The steps of a producer go round its pool, so the number of times that it has
visited an alarm is a quotient, and at the moment of a visit this is the round of
the step.  The same is computed in machine words, as long as they count the steps.
-/

set_option autoImplicit false

namespace AlarmRelay

namespace Producer

section

variable (size steps index : Nat) (first : 1 ≤ index) (last : index ≤ size)

include first last

/-- Up to a step there were as many visits as rounds, and one more if the round
under way has come past. -/
theorem quotient_visits (extra : Nat) (few : extra ≤ 1) :
    (steps + extra + size - index) / size =
      steps / size + if index ≤ steps % size + extra then 1 else 0 := by
  have positive : 0 < size := by omega
  have rest := Nat.mod_lt steps positive
  have whole := Nat.div_add_mod steps size
  rw [Nat.mul_comm] at whole
  split
  · apply Nat.div_eq_of_lt_le
    · rw [Nat.add_mul]
      omega
    · rw [Nat.add_mul, Nat.add_mul]
      omega
  · rw [Nat.add_zero]
    apply Nat.div_eq_of_lt_le
    · omega
    · rw [Nat.add_mul]
      omega

end

section

variable (producer : Producer) (small : producer.poolSize < UInt32.size)

include small

theorem target_toNat :
    producer.target.toNat = producer.steps % producer.poolSize + 1 := by
  have rest := Nat.mod_lt producer.steps producer.poolSize_pos
  have fits : producer.steps % producer.poolSize + 1 < UInt32.size := by omega
  exact UInt32.toNat_ofNat_of_lt' fits

theorem target_owned : producer.owns producer.target := by
  have rest := Nat.mod_lt producer.steps producer.poolSize_pos
  rw [owns, producer.target_toNat small]
  omega

theorem target_iff (id : AlarmId) :
    producer.target = id ↔
      producer.steps % producer.poolSize + 1 = id.toNat := by
  rw [← producer.target_toNat small, UInt32.toNat_inj]

/-- A step is one more visit of its target. -/
theorem visits_next (id : AlarmId) (owned : producer.owns id) :
    producer.next.visits id =
      producer.visits id + if producer.target = id then 1 else 0 := by
  have after := quotient_visits producer.poolSize producer.steps id.toNat owned.1
    owned.2 1 (Nat.le_refl 1)
  have earlier := quotient_visits producer.poolSize producer.steps id.toNat owned.1
    owned.2 0 (Nat.zero_le 1)
  simp only [visits, next, target_iff producer small id]
  rw [Nat.add_zero] at earlier
  rw [after, earlier]
  split <;> split <;> split <;> omega

/-- When an alarm is visited, it has been so in every round before. -/
theorem visits_target : producer.visits producer.target = producer.round := by
  obtain ⟨positive, within⟩ := producer.target_owned small
  have earlier := quotient_visits producer.poolSize producer.steps
    producer.target.toNat positive within 0 (Nat.zero_le 1)
  rw [visits, round]
  rw [Nat.add_zero, producer.target_toNat small, if_neg (by omega)] at earlier
  rw [producer.target_toNat small, earlier, Nat.add_zero]

end

section

variable (maxAlarms : UInt32)

theorem poolSize_small (step : Nat) :
    (before maxAlarms step).poolSize < UInt32.size := by
  have bound := maxAlarms.toNat_lt_size
  have size : (before maxAlarms step).poolSize = max maxAlarms.toNat 1 := rfl
  rw [size]
  exact Nat.max_lt.mpr ⟨bound, by decide⟩

/-- In words of 32 and 64 bits a step computes what it computes in numbers. -/
theorem words_before (step : Nat) (few : step + 1 < UInt64.size) :
    wordStep? maxAlarms (UInt64.ofNat step) =
      some ((before maxAlarms step).target,
        UInt64.ofNat (before maxAlarms step).round, UInt64.ofNat (step + 1)) := by
  have small := poolSize_small maxAlarms step
  generalize sized : (if maxAlarms = 0 then 1 else maxAlarms).toUInt64 = size
  have width : size.toNat = (before maxAlarms step).poolSize := by
    rw [← sized, UInt32.toNat_toUInt64]
    change _ = max maxAlarms.toNat 1
    split
    · rename_i zero
      rw [zero]
      rfl
    · rename_i some
      have positive : maxAlarms.toNat ≠ 0 := fun none =>
        some (UInt32.toNat_inj.mp none)
      omega
  have counted : (UInt64.ofNat step).toNat = step :=
    UInt64.toNat_ofNat_of_lt' (by omega)
  have positive := (before maxAlarms step).poolSize_pos
  have apart : size ≠ 0 := by
    intro zero
    rw [zero] at width
    exact absurd width (Nat.ne_of_lt positive)
  have rest := Nat.mod_lt step positive
  have index : ((UInt64.ofNat step) % size).toUInt32.toNat =
      step % (before maxAlarms step).poolSize := by
    rw [UInt64.toNat_toUInt32, UInt64.toNat_mod, counted, width]
    exact Nat.mod_eq_of_lt (Nat.lt_trans rest small)
  have round : (UInt64.ofNat step) / size =
      UInt64.ofNat (before maxAlarms step).round := by
    apply UInt64.toNat_inj.mp
    have shorter : (before maxAlarms step).round ≤ step := Nat.div_le_self _ _
    rw [UInt64.toNat_div, counted, width,
      UInt64.toNat_ofNat_of_lt' (by omega)]
    rfl
  have next : UInt64.ofNat step + 1 = UInt64.ofNat (step + 1) := by
    apply UInt64.toNat_inj.mp
    rw [UInt64.toNat_add, counted, UInt64.toNat_ofNat_of_lt' few]
    exact Nat.mod_eq_of_lt few
  have target : ((UInt64.ofNat step) % size).toUInt32 + 1 =
      (before maxAlarms step).target := by
    apply UInt32.toNat_inj.mp
    have one : (1 : UInt32).toNat = 1 := rfl
    have bits : UInt32.size = 2 ^ 32 := rfl
    rw [UInt32.toNat_add, index, (before maxAlarms step).target_toNat small, one]
    exact Nat.mod_eq_of_lt (by omega)
  simp only [wordStep?, sized]
  rw [if_neg apart, if_pos ⟨by rw [index]; omega, by rw [counted]; exact few⟩,
    target, round, next]

/-- Among as many steps in a row as the pool has alarms, one visits a given one. -/
theorem turn_before (first : Nat) (id : AlarmId)
    (owned : (create maxAlarms).owns id) :
    ∃ turn < (create maxAlarms).poolSize,
      ∀ other < (create maxAlarms).poolSize,
        ((before maxAlarms (first + other)).target = id ↔ other = turn) := by
  have size_pos := (create maxAlarms).poolSize_pos
  have hits : ∀ other, (before maxAlarms (first + other)).target = id ↔
      (first + other) % (create maxAlarms).poolSize + 1 = id.toNat :=
    fun other => target_iff _ (poolSize_small maxAlarms _) id
  obtain ⟨from_one, to_size⟩ := owned
  generalize (create maxAlarms).poolSize = size at *
  have rest := Nat.mod_lt first size_pos
  -- The steps before the round under way is over, and those after it.
  have turned : ∀ other < size, (first + other) % size =
      if first % size + other < size then first % size + other
      else first % size + other - size := by
    intro other short
    rw [← Nat.mod_add_mod]
    split
    · exact Nat.mod_eq_of_lt ‹_›
    · rw [Nat.mod_eq_sub_mod (by omega)]
      exact Nat.mod_eq_of_lt (by omega)
  refine ⟨if first % size < id.toNat then id.toNat - 1 - first % size
    else id.toNat - 1 + size - first % size, ?_, ?_⟩
  · split <;> omega
  · intro other short
    rw [hits, turned other short]
    split <;> split <;> omega

theorem count_visits (steps : Nat) (id : AlarmId)
    (owned : (create maxAlarms).owns id) :
    (List.range steps).countP
        (fun step => (before maxAlarms step).target == id) =
      (before maxAlarms steps).visits id := by
  induction steps with
  | zero =>
      obtain ⟨from_one, to_size⟩ := owned
      have none : (before maxAlarms 0).steps = 0 := rfl
      have size : (before maxAlarms 0).poolSize =
        (create maxAlarms).poolSize := rfl
      exact (Nat.div_eq_of_lt (by omega)).symm
  | succ steps ih =>
      have next := visits_next (before maxAlarms steps)
        (poolSize_small maxAlarms steps) id owned
      change (before maxAlarms (steps + 1)).visits id = _ at next
      rw [List.range_succ, List.countP_append, ih, next]
      simp

end

end Producer

end AlarmRelay
