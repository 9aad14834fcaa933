import AlarmRelay.Severity

/-!
# Alarm records

An alarm is a record that producers change and that the hub only passes on.
Every helper that stamps a time takes the clock reading as an argument, so the
record functions themselves are plain.
-/

set_option autoImplicit false

namespace AlarmRelay

abbrev AlarmId := UInt32

/-- Wall-clock time in milliseconds since the Unix epoch. -/
abbrev Timestamp := UInt64

structure Memo where
  body : String
  author : String
  updatedAt : Timestamp
  deriving DecidableEq, Repr, Inhabited

structure Alarm where
  id : AlarmId
  /-- Stable correlation key, independent of `id`. -/
  reductionKey : String
  uei : String
  severity : Severity
  description : Option String
  counter : UInt32
  firstEventTime : Timestamp
  lastEventTime : Timestamp
  ackUser : Option String
  ackTime : Option Timestamp
  /-- Memo attached to this alarm only. -/
  stickyMemo : Option Memo
  /-- Memo shared by every alarm with the same reduction key. -/
  reductionKeyMemo : Option Memo
  deriving DecidableEq, Repr, Inhabited

namespace Alarm

def raise (now : Timestamp) (id : AlarmId) (uei reductionKey : String)
    (severity : Severity) : Alarm where
  id := id
  reductionKey := reductionKey
  uei := uei
  severity := severity
  description := none
  counter := 1
  firstEventTime := now
  lastEventTime := now
  ackUser := none
  ackTime := none
  stickyMemo := none
  reductionKeyMemo := none

def describe (alarm : Alarm) (text : String) : Alarm :=
  { alarm with description := some text }

/-- An alarm is acknowledged while it names a user. -/
def isAcknowledged (alarm : Alarm) : Bool :=
  alarm.ackUser.isSome

/-- The occurrence count after one more; it stays at its largest value. -/
def nextCounter (counter : UInt32) : UInt32 :=
  if counter.toNat + 1 < UInt32.size then counter + 1 else counter

/-- Record another occurrence of the same problem. -/
def reduce (now : Timestamp) (alarm : Alarm) : Alarm :=
  { alarm with counter := nextCounter alarm.counter, lastEventTime := now }

def acknowledgement (alarm : Alarm) : Option String × Option Timestamp :=
  (alarm.ackUser, alarm.ackTime)

def acknowledge (now : Timestamp) (user : String) (alarm : Alarm) : Alarm :=
  { alarm with ackUser := some user, ackTime := some now }

def unacknowledge (alarm : Alarm) : Alarm :=
  { alarm with ackUser := none, ackTime := none }

def setSeverity (severity : Severity) (alarm : Alarm) : Alarm :=
  { alarm with severity := severity }

def clear (alarm : Alarm) : Alarm :=
  alarm.setSeverity .cleared

/-- Replace or remove the memo attached to this alarm only. -/
def setStickyMemo (memo : Option Memo) (alarm : Alarm) : Alarm :=
  { alarm with stickyMemo := memo }

/-- Replace or remove the memo shared through the reduction key. -/
def setReductionKeyMemo (memo : Option Memo) (alarm : Alarm) : Alarm :=
  { alarm with reductionKeyMemo := memo }

/-- Whether the latest occurrence is not before the first one. -/
def isChronological (alarm : Alarm) : Bool :=
  decide (alarm.firstEventTime ≤ alarm.lastEventTime)

end Alarm
end AlarmRelay
