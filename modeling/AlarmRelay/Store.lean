import AlarmRelay.Alarm

/-!
# The alarm store

Current alarms held in memory, one per id, listed in increasing order of id.  A
scan reads all of them at once.
-/

set_option autoImplicit false

namespace AlarmRelay

/-- Alarms held in memory, one per id, in increasing order of id. -/
structure AlarmStore where
  /-- The records in increasing order of id. -/
  records : List Alarm
  deriving DecidableEq, Repr

namespace AlarmStore

def empty : AlarmStore := ⟨[]⟩

instance : Inhabited AlarmStore := ⟨empty⟩

/-- Put a record into its place, over the record of the same id. -/
def insertRecord (alarm : Alarm) : List Alarm → List Alarm
  | [] => [alarm]
  | head :: rest =>
      if alarm.id < head.id then alarm :: head :: rest
      else if alarm.id = head.id then alarm :: rest
      else head :: insertRecord alarm rest

def get? (store : AlarmStore) (id : AlarmId) : Option Alarm :=
  store.records.find? (fun alarm => alarm.id == id)

/-- Insert an alarm or replace the one of the same id. -/
def upsert (store : AlarmStore) (alarm : Alarm) : AlarmStore :=
  ⟨insertRecord alarm store.records⟩

def remove (store : AlarmStore) (id : AlarmId) : AlarmStore :=
  ⟨store.records.filter (fun alarm => alarm.id != id)⟩

/-- A store seeded with alarms; of two with one id the later wins. -/
def ofAlarms (alarms : List Alarm) : AlarmStore :=
  alarms.foldl upsert empty

/-- Every stored alarm, in increasing order of id. -/
def scan (store : AlarmStore) : List Alarm :=
  store.records

def size (store : AlarmStore) : Nat :=
  store.records.length

def isEmpty (store : AlarmStore) : Bool :=
  store.records.isEmpty

end AlarmStore
end AlarmRelay
