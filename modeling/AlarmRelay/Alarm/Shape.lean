import AlarmRelay.Alarm.Format
import AlarmRelay.Json.Meaning

/-!
# What the members of an alarm say

An alarm has seven fields that have to be given and five that may be missing, a
memo has three that have to be given.
-/

set_option autoImplicit false

namespace AlarmRelay

open Json

def Severity.IsNamed (tree : Tree) (severity : Severity) : Prop :=
  tree.IsLabel Severity.label severity

namespace Memo

def requiredNames : List String := ["body", "author", "updated_at"]

/-- The members give the fields of a memo. -/
structure RecordedIn (members : Members) (memo : Memo) : Prop where
  body : members.Gives Tree.IsText "body" memo.body
  author : members.Gives Tree.IsText "author" memo.author
  updatedAt : members.Gives Tree.IsWord64 "updated_at" memo.updatedAt

def IsWritten (tree : Tree) (memo : Memo) : Prop :=
  tree.IsRecord requiredNames fun members => RecordedIn members memo

/-- The members give every field of a memo exactly once and acceptably. -/
structure Acceptable (members : Members) : Prop where
  body : members.HasOne Tree.IsText "body"
  author : members.HasOne Tree.IsText "author"
  updatedAt : members.HasOne Tree.IsWord64 "updated_at"

end Memo

namespace Alarm

/-- The names of all fields, in order. -/
def fieldNames : List String :=
  ["id", "reduction_key", "uei", "severity", "description", "counter",
    "first_event_time", "last_event_time", "ack_user", "ack_time",
    "sticky_memo", "reduction_key_memo"]

def requiredNames : List String :=
  ["id", "reduction_key", "uei", "severity", "counter", "first_event_time",
    "last_event_time"]

def optionalNames : List String :=
  ["description", "ack_user", "ack_time", "sticky_memo", "reduction_key_memo"]

/-- The members give the fields of an alarm. -/
structure RecordedIn (members : Members) (alarm : Alarm) : Prop where
  id : members.Gives Tree.IsWord32 "id" alarm.id
  reductionKey : members.Gives Tree.IsText "reduction_key" alarm.reductionKey
  uei : members.Gives Tree.IsText "uei" alarm.uei
  severity : members.Gives Severity.IsNamed "severity" alarm.severity
  description : members.MayGive Tree.IsText "description" alarm.description
  counter : members.Gives Tree.IsWord32 "counter" alarm.counter
  firstEventTime :
    members.Gives Tree.IsWord64 "first_event_time" alarm.firstEventTime
  lastEventTime :
    members.Gives Tree.IsWord64 "last_event_time" alarm.lastEventTime
  ackUser : members.MayGive Tree.IsText "ack_user" alarm.ackUser
  ackTime : members.MayGive Tree.IsWord64 "ack_time" alarm.ackTime
  stickyMemo : members.MayGive Memo.IsWritten "sticky_memo" alarm.stickyMemo
  reductionKeyMemo :
    members.MayGive Memo.IsWritten "reduction_key_memo" alarm.reductionKeyMemo

def IsWritten (tree : Tree) (alarm : Alarm) : Prop :=
  tree.IsRecord fieldNames fun members => RecordedIn members alarm

/-- The members give every required field of an alarm exactly once and acceptably,
and every other field of it at most once, as nothing or acceptably. -/
structure Acceptable (members : Members) : Prop where
  id : members.HasOne Tree.IsWord32 "id"
  reductionKey : members.HasOne Tree.IsText "reduction_key"
  uei : members.HasOne Tree.IsText "uei"
  severity : members.HasOne Severity.IsNamed "severity"
  description : members.HasAtMostOne Tree.IsText "description"
  counter : members.HasOne Tree.IsWord32 "counter"
  firstEventTime : members.HasOne Tree.IsWord64 "first_event_time"
  lastEventTime : members.HasOne Tree.IsWord64 "last_event_time"
  ackUser : members.HasAtMostOne Tree.IsText "ack_user"
  ackTime : members.HasAtMostOne Tree.IsWord64 "ack_time"
  stickyMemo : members.HasAtMostOne Memo.IsWritten "sticky_memo"
  reductionKeyMemo : members.HasAtMostOne Memo.IsWritten "reduction_key_memo"

end Alarm
end AlarmRelay
