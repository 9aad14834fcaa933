import AlarmRelay.Producer

/-!
# The life cycle of a pool

A producer goes through its pool again and again, and an alarm of the pool lives
for seven rounds: it is created, changed five times and removed.  How old it is
follows from how often it was visited, which is a division.
-/

set_option autoImplicit false

namespace AlarmRelay

namespace Producer

/-- A producer that has taken so many steps. -/
def before (maxAlarms : UInt32) (step : Nat) : Producer :=
  { create maxAlarms with steps := step }

/-- Whether an alarm belongs to the pool. -/
def owns (producer : Producer) (id : AlarmId) : Prop :=
  1 ≤ id.toNat ∧ id.toNat ≤ producer.poolSize

/-- How often an alarm of the pool has been visited. -/
def visits (producer : Producer) (id : AlarmId) : Nat :=
  (producer.steps + producer.poolSize - id.toNat) / producer.poolSize

/-- The alarm that a step acts on, its round and the number of steps after it, in
words of 32 and 64 bits; nothing if a division by zero or an overflow stops it. -/
def wordStep? (maxAlarms : UInt32) (steps : UInt64) :
    Option (AlarmId × UInt64 × UInt64) :=
  let size := (if maxAlarms = 0 then 1 else maxAlarms).toUInt64
  if size = 0 then none
  else
    let index := (steps % size).toUInt32
    if index.toNat + 1 < UInt32.size ∧ steps.toNat + 1 < UInt64.size then
      some (index + 1, steps / size, steps + 1)
    else none

/-- What is announced about an alarm from its creation to its end, visit by visit. -/
def lifecycle : List (List String) :=
  [["created"], ["updated"], ["severity_changed"],
    ["acknowledged", "sticky_memo_updated"],
    ["unacknowledged", "sticky_memo_deleted"],
    ["severity_changed", "reduction_key_memo_updated"],
    ["reduction_key_memo_deleted", "deleted"]]

end Producer

/-- The alarm that an action writes, erases or announces. -/
def ProducerAction.id? : ProducerAction → Option AlarmId
  | .write alarm => some alarm.id
  | .erase id => some id
  | .announce event => some event.alarmId
  | .note _ => none

namespace Alarm

/-- What the producer has made of an alarm of its pool by its `age`-th visit. -/
structure IsAged (id : AlarmId) (age : Nat) (alarm : Alarm) : Prop where
  named : alarm.id = id
  reductionKey : alarm.reductionKey =
    Producer.uei ++ ":" ++ toString id.toNat
  counter : alarm.counter = if age = 1 then 1 else 2
  severity : alarm.severity =
    if age ≤ 2 then .warning else if age ≤ 5 then .major else .cleared
  ackUser : alarm.ackUser = if age = 4 then some Producer.user else none
  ackTime : alarm.ackTime.isSome = decide (age = 4)
  stickyMemo : alarm.stickyMemo.isSome = decide (age = 4)
  reductionKeyMemo : alarm.reductionKeyMemo.isSome = decide (age = 6)

/-- What a store holds for an alarm of the pool: nothing at age zero, and the alarm
of that age otherwise. -/
def EntryAged (id : AlarmId) (age : Nat) : Option Alarm → Prop
  | none => age = 0
  | some alarm => 0 < age ∧ alarm.IsAged id age

end Alarm

/-- A producer with the store that it alone writes, and what it has announced. -/
structure Labour where
  producer : Producer
  store : AlarmStore
  events : List AlarmEvent

namespace Labour

def begun (maxAlarms : UInt32) (store : AlarmStore) : Labour :=
  ⟨.create maxAlarms, store, []⟩

/-- Take a step, for which the clock shows the first reading and then the second. -/
def step (labour : Labour) (reading : Timestamp × Timestamp) : Labour :=
  let actions := labour.producer.plan reading.1 reading.2 labour.store
  { producer := labour.producer.next
    store := actions.foldl ProducerAction.applyTo labour.store
    events := labour.events ++ actions.filterMap ProducerAction.event? }

/-- Take one step for every reading. -/
def after (labour : Labour) (readings : List (Timestamp × Timestamp)) : Labour :=
  readings.foldl step labour

/-- The kinds of the events about an alarm, in order. -/
def labels (labour : Labour) (id : AlarmId) : List String :=
  (labour.events.filter fun event => event.alarmId == id).map AlarmEvent.label

/-- A producer of a pool of `maxAlarms`, or of one, has gone through its pool in turn
and made the store from `start` what their visits make of its alarms. -/
structure Cycles (maxAlarms : UInt32) (start : AlarmStore) (labour : Labour) :
    Prop where
  producer : labour.producer = .before maxAlarms labour.producer.steps
  size : labour.producer.poolSize = max maxAlarms.toNat 1
  /-- No step divides by zero or overflows. -/
  words : ∀ step < labour.producer.steps,
    Producer.wordStep? maxAlarms (UInt64.ofNat step) =
      some ((Producer.before maxAlarms step).target,
        UInt64.ofNat (Producer.before maxAlarms step).round,
        UInt64.ofNat (step + 1))
  targets : ∀ step < labour.producer.steps,
    (Producer.before maxAlarms step).target.toNat =
      step % labour.producer.poolSize + 1
  /-- A step changes and announces no alarm but its target. -/
  acts : ∀ step < labour.producer.steps, ∀ now later store,
    ∀ action ∈ (Producer.before maxAlarms step).plan now later store,
      ∀ id, action.id? = some id →
        id = (Producer.before maxAlarms step).target
  /-- As many steps in a row as the pool has alarms visit each of them once. -/
  turns : ∀ first, first + labour.producer.poolSize ≤ labour.producer.steps →
    ∀ id, labour.producer.owns id →
      ∃ turn < labour.producer.poolSize, ∀ other < labour.producer.poolSize,
        ((Producer.before maxAlarms (first + other)).target = id ↔
          other = turn)
  counts : ∀ id, labour.producer.owns id →
    (List.range labour.producer.steps).countP
      (fun step => (Producer.before maxAlarms step).target == id) =
        labour.producer.visits id
  /-- What is not in the pool stays as it was. -/
  outside : ∀ id, ¬ labour.producer.owns id →
    labour.store.get? id = start.get? id
  /-- The age of an alarm that was absent at first, or that was visited often enough
  to have been removed once, is what its visits leave over when divided by seven. -/
  aged : ∀ id, labour.producer.owns id →
    (start.get? id = none ∨ 7 ≤ labour.producer.visits id) →
      Alarm.EntryAged id (labour.producer.visits id % 7)
        (labour.store.get? id)
  /-- An alarm that was there at first is removed by its seventh visit. -/
  seeded : ∀ id, labour.producer.owns id → start.get? id ≠ none →
    labour.producer.visits id ≤ 7 →
      (labour.store.get? id = none ↔ labour.producer.visits id = 7)
  /-- The events about an alarm that was absent at first repeat its life cycle. -/
  told : ∀ id, labour.producer.owns id → start.get? id = none →
    ∃ rounds, labour.labels id <+:
      (List.replicate rounds Producer.lifecycle.flatten).flatten

end Labour
end AlarmRelay
