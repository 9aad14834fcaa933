import AlarmRelay.Alarm

/-!
# Changes to an alarm

The changes a producer can make to one alarm, as data, and what each answers:
the value that its own group of fields had just before it.
-/

set_option autoImplicit false

namespace AlarmRelay

/-- One change that a producer makes to an alarm. -/
inductive AlarmChange where
  | describe (text : String)
  | reduce
  | acknowledge (user : String)
  | unacknowledge
  | setSeverity (severity : Severity)
  | clear
  | setStickyMemo (memo : Memo)
  | clearStickyMemo
  | setReductionKeyMemo (memo : Memo)
  | clearReductionKeyMemo
  deriving DecidableEq, Repr

/-- What a change answers: the earlier value of what it replaced. -/
inductive Replaced where
  | nothing
  | acknowledgement (user : Option String) (time : Option Timestamp)
  | severity (severity : Severity)
  | memo (memo : Option Memo)
  deriving DecidableEq, Repr

namespace AlarmChange

def apply (now : Timestamp) (alarm : Alarm) : AlarmChange → Alarm
  | .describe text => alarm.describe text
  | .reduce => alarm.reduce now
  | .acknowledge user => alarm.acknowledge now user
  | .unacknowledge => alarm.unacknowledge
  | .setSeverity severity => alarm.setSeverity severity
  | .clear => alarm.clear
  | .setStickyMemo memo => alarm.setStickyMemo (some memo)
  | .clearStickyMemo => alarm.setStickyMemo none
  | .setReductionKeyMemo memo => alarm.setReductionKeyMemo (some memo)
  | .clearReductionKeyMemo => alarm.setReductionKeyMemo none

def replaced (alarm : Alarm) : AlarmChange → Replaced
  | .describe _ | .reduce => .nothing
  | .acknowledge _ | .unacknowledge =>
      .acknowledgement alarm.ackUser alarm.ackTime
  | .setSeverity _ | .clear => .severity alarm.severity
  | .setStickyMemo _ | .clearStickyMemo => .memo alarm.stickyMemo
  | .setReductionKeyMemo _ | .clearReductionKeyMemo =>
      .memo alarm.reductionKeyMemo

/-- Apply timed changes in order: the final alarm and every answer. -/
def applyAll : Alarm → List (Timestamp × AlarmChange) → Alarm × List Replaced
  | alarm, [] => (alarm, [])
  | alarm, (now, change) :: rest =>
      let (final, answers) := applyAll (change.apply now alarm) rest
      (final, change.replaced alarm :: answers)

end AlarmChange
end AlarmRelay
