import AlarmRelay.Alarm

/-!
# Sample alarms

Distinct alarms for load measurements.
-/

set_option autoImplicit false

namespace AlarmRelay.Sample

def uei : String := "uei.opennms.org/nodes/nodeDown"

def alarm (now : Timestamp) (id : AlarmId) : Alarm :=
  Alarm.raise now id uei (uei ++ "::" ++ toString id.toNat) .major

def alarms (now : Timestamp) (count : UInt32) : List Alarm :=
  (List.range count.toNat).map fun index =>
    alarm now (UInt32.ofNat (index + 1))

end AlarmRelay.Sample
