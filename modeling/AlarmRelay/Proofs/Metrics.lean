import AlarmRelay.Metrics
import AlarmRelay.Signal
import Mathlib.Data.List.Count

/-!
# Counting in the ledger

A ledger counts what it is told and nothing else: every count grows by the changes
of its own kind and label, and the observed sizes are listed in order.
-/

set_option autoImplicit false

namespace AlarmRelay

theorem Tally.count_cons (name other : String) (number : Nat) (rest : Tally) :
    Tally.count ((name, number) :: rest) other =
      if name = other then number else rest.count other := by
  by_cases same : other = name
  · simp [count, same]
  · simp [count, List.lookup_cons, beq_false_of_ne same, Ne.symm same]

theorem Tally.count_bump (tally : Tally) (label other : String) :
    (tally.bump label).count other =
      tally.count other + if label = other then 1 else 0 := by
  induction tally with
  | nil => rw [bump, count_cons]; simp [count]
  | cons entry rest ih =>
      obtain ⟨name, number⟩ := entry
      rw [bump]
      split
      · rename_i here
        rw [count_cons, count_cons, here]
        split <;> rfl
      · rename_i apart
        rw [count_cons, count_cons, ih]
        by_cases same : name = other
        · have unbumped : label ≠ other :=
            fun back => apart (same.trans back.symm)
          simp [same, unbumped]
        · simp [same]

namespace Ledger

/-- A reading that every change raises by one if it is `counted` and leaves alone
otherwise counts these changes. -/
theorem reading_recordAll (reading : Ledger → Nat) (counted : MetricChange)
    (one : ∀ ledger change, reading (record ledger change) =
      reading ledger + if change = counted then 1 else 0)
    (ledger : Ledger) (changes : List MetricChange) :
    reading (ledger.recordAll changes) =
      reading ledger + changes.count counted := by
  induction changes generalizing ledger with
  | nil => rfl
  | cons change rest ih =>
      have later := ih (ledger.record change)
      rw [one] at later
      simp only [recordAll, List.foldl_cons, List.count_cons, beq_iff_eq] at later ⊢
      omega

variable (ledger : Ledger) (changes : List MetricChange)

theorem events_recordAll (kind : String) :
    (ledger.recordAll changes).events.count kind =
      ledger.events.count kind + changes.count (.event kind) := by
  apply reading_recordAll (fun ledger => ledger.events.count kind)
  intro ledger change
  cases change <;> simp [record, Tally.count_bump]

theorem failures_recordAll (path : String) :
    (ledger.recordAll changes).failures.count path =
      ledger.failures.count path + changes.count (.listenerFailure path) := by
  apply reading_recordAll (fun ledger => ledger.failures.count path)
  intro ledger change
  cases change <;> simp [record, Tally.count_bump]

theorem ticks_recordAll (outcome : String) :
    (ledger.recordAll changes).ticks.count outcome =
      ledger.ticks.count outcome + changes.count (.tick outcome) := by
  apply reading_recordAll (fun ledger => ledger.ticks.count outcome)
  intro ledger change
  cases change <;> simp [record, Tally.count_bump]

theorem latencies_recordAll (path : String) :
    (ledger.recordAll changes).latencies.count path =
      ledger.latencies.count path + changes.count (.latency path) := by
  apply reading_recordAll (fun ledger => ledger.latencies.count path)
  intro ledger change
  cases change <;> simp [record, Tally.count_bump]

theorem sizes_recordAll (alarms : Nat) :
    (ledger.recordAll changes).snapshotSizes.count alarms =
      ledger.snapshotSizes.count alarms +
        changes.count (.snapshotSize alarms) := by
  apply reading_recordAll (fun ledger => ledger.snapshotSizes.count alarms)
  intro ledger change
  cases change <;> simp [record, List.count_singleton]

end Ledger

namespace Signal

variable (first second signals : List Signal)

theorem metrics_append : metrics (first ++ second) =
    metrics first ++ metrics second := by
  simp [metrics]

theorem logs_append : logs (first ++ second) = logs first ++ logs second := by
  simp [logs]

theorem count_metrics (change : MetricChange) :
    (metrics signals).count change = signals.count (.metric change) := by
  induction signals with
  | nil => rfl
  | cons signal rest ih =>
      cases signal with
      | log record => simpa [metrics] using ih
      | metric other =>
          have head : metrics (.metric other :: rest) = other :: metrics rest := rfl
          rw [head, List.count_cons, List.count_cons, ih]
          simp

end Signal
end AlarmRelay
