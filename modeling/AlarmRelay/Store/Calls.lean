import AlarmRelay.Store

/-!
# Calls made to a store

What a store answers to its callers, and what the calls made to it say that it
holds: under an id the record that was put there last, unless it was removed since.
-/

set_option autoImplicit false

namespace AlarmRelay

/-- One call made to a store. -/
inductive StoreCall where
  | upsert (alarm : Alarm)
  | remove (id : AlarmId)
  | get (id : AlarmId)
  | size
  | isEmpty
  | scan
  deriving DecidableEq, Repr

inductive StoreAnswer where
  /-- The record that is held under an id, or was until the call. -/
  | record (alarm : Option Alarm)
  | count (records : Nat)
  | flag (value : Bool)
  | records (alarms : List Alarm)
  deriving DecidableEq, Repr

namespace AlarmStore

/-- Serve a call: what it answers, and the store after it. -/
def serve (store : AlarmStore) : StoreCall → StoreAnswer × AlarmStore
  | .upsert alarm => (.record (store.get? alarm.id), store.upsert alarm)
  | .remove id => (.record (store.get? id), store.remove id)
  | .get id => (.record (store.get? id), store)
  | .size => (.count store.size, store)
  | .isEmpty => (.flag store.isEmpty, store)
  | .scan => (.records store.scan, store)

/-- Serve calls one after the other: all that they answer, and the store at last. -/
def serveAll (store : AlarmStore) :
    List StoreCall → List StoreAnswer × AlarmStore
  | [] => ([], store)
  | call :: rest =>
      let (answers, final) := (store.serve call).2.serveAll rest
      ((store.serve call).1 :: answers, final)

end AlarmStore

namespace StoreCall

/-- What a call leaves under an id, if it does anything to that. -/
def leaves (id : AlarmId) : StoreCall → Option (Option Alarm)
  | .upsert alarm => if alarm.id = id then some (some alarm) else none
  | .remove other => if other = id then some none else none
  | .get _ | .size | .isEmpty | .scan => none

/-- The record that was put under an id last, unless it was removed since. -/
def held (past : List StoreCall) (id : AlarmId) : Option Alarm :=
  (past.filterMap fun call => call.leaves id).getLast?.join

/-- To seed a store is to put every seed into it, in order. -/
def seeding (seeds : List Alarm) : List StoreCall :=
  seeds.map .upsert

/-- What a call answers after others that have left `records`. -/
def answer (past : List StoreCall) (records : List Alarm) :
    StoreCall → StoreAnswer
  | .upsert alarm => .record (held past alarm.id)
  | .remove id | .get id => .record (held past id)
  | .size => .count records.length
  | .isEmpty => .flag (records.length == 0)
  | .scan => .records records

end StoreCall

/-- A store is the map from ids to records that the calls made to it describe. -/
structure AlarmStore.Recalls (store : AlarmStore) (past : List StoreCall) :
    Prop where
  holds : ∀ id, store.get? id = StoreCall.held past id
  /-- Every record is held under its own id. -/
  ownId : ∀ id alarm, store.get? id = some alarm → alarm.id = id
  /-- A scan is in strictly increasing order of id, so without duplicates. -/
  ordered : store.scan.Pairwise fun first second => first.id < second.id
  scanned : ∀ alarm, alarm ∈ store.scan ↔
    StoreCall.held past alarm.id = some alarm
  found : ∀ id alarm, store.get? id = some alarm ↔
    alarm ∈ store.scan ∧ alarm.id = id
  size : store.size = store.scan.length
  isEmpty : store.isEmpty = true ↔ store.size = 0
  answers : ∀ call, (store.serve call).1 = call.answer past store.scan
  /-- A call changes nothing under an id that it does not name. -/
  untouched : ∀ call id, call.leaves id = none →
    (store.serve call).2.get? id = store.get? id
  reseeded : AlarmStore.ofAlarms store.scan = store

end AlarmRelay
