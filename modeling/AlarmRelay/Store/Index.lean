import AlarmRelay.Store.Calls
import Mathlib.Data.List.Basic

/-!
# Records under their ids

A store as an ordered map, in which every id stands beside the record that is held
under it, and what it is for a store to be such a map.
-/

set_option autoImplicit false

namespace AlarmRelay

/-- Records under their ids, in order. -/
abbrev AlarmIndex := Std.TreeMap AlarmId Alarm

namespace AlarmIndex

def ofAlarms (alarms : List Alarm) : AlarmIndex :=
  alarms.foldl (fun index alarm => index.insert alarm.id alarm) ∅

/-- Serve a call: what it answers, and the map after it. -/
def serve (index : AlarmIndex) : StoreCall → StoreAnswer × AlarmIndex
  | .upsert alarm => (.record index[alarm.id]?, index.insert alarm.id alarm)
  | .remove id => (.record index[id]?, index.erase id)
  | .get id => (.record index[id]?, index)
  | .size => (.count index.size, index)
  | .isEmpty => (.flag index.isEmpty, index)
  | .scan => (.records (index.toList.map Prod.snd), index)

/-- Serve calls one after the other: all that they answer, and the map at last. -/
def serveAll (index : AlarmIndex) :
    List StoreCall → List StoreAnswer × AlarmIndex
  | [] => ([], index)
  | call :: rest =>
      let (answers, final) := serveAll (index.serve call).2 rest
      ((index.serve call).1 :: answers, final)

end AlarmIndex

/-- A seeded store to which calls were made and the map to which the same calls were
made answer alike, and both hold what the calls describe. -/
structure AlarmStore.RefinesMap (seeds : List Alarm) (calls : List StoreCall)
    (replies : List StoreAnswer) (store : AlarmStore) : Prop where
  recalls : store.Recalls (StoreCall.seeding seeds ++ calls)
  answered : replies.length = calls.length
  answers : ∀ before call after, calls = before ++ call :: after →
    ∃ earlier : AlarmStore,
      earlier.Recalls (StoreCall.seeding seeds ++ before) ∧
        replies[before.length]? = some
          (call.answer (StoreCall.seeding seeds ++ before) earlier.scan)
  alike : ((AlarmIndex.ofAlarms seeds).serveAll calls).1 = replies
  keyed : ((AlarmIndex.ofAlarms seeds).serveAll calls).2.toList =
    store.scan.map fun alarm => (alarm.id, alarm)

end AlarmRelay
