import AlarmRelay.Alarm.Change

/-!
# The latest call of every group

Every change to an alarm writes one group of its fields.  What an alarm holds is
told by the calls made to it since it was raised: the latest call of a group
decides what the group holds, whatever was called before it and in between.
-/

set_option autoImplicit false

namespace AlarmRelay

/-- The fields that some changes write and no others do. -/
inductive AlarmGroup where
  | description
  /-- How often the problem occurred, and when it did last. -/
  | occurrence
  /-- Who acknowledged the alarm, and when. -/
  | acknowledgement
  | severity
  | stickyMemo
  | reductionKeyMemo
  deriving DecidableEq, Repr

/-- The group that a change writes. -/
def AlarmChange.group : AlarmChange → AlarmGroup
  | .describe _ => .description
  | .reduce => .occurrence
  | .acknowledge _ | .unacknowledge => .acknowledgement
  | .setSeverity _ | .clear => .severity
  | .setStickyMemo _ | .clearStickyMemo => .stickyMemo
  | .setReductionKeyMemo _ | .clearReductionKeyMemo => .reductionKeyMemo

/-- Calls made to an alarm one after the other, each with what the clock shows. -/
abbrev AlarmCalls := List (Timestamp × AlarmChange)

namespace AlarmCalls

/-- The calls that write a group, in order. -/
def ofGroup (calls : AlarmCalls) (group : AlarmGroup) : AlarmCalls :=
  calls.filter fun call => call.2.group == group

def latest? (calls : AlarmCalls) (group : AlarmGroup) :
    Option (Timestamp × AlarmChange) :=
  (calls.ofGroup group).getLast?

def description? (calls : AlarmCalls) : Option String :=
  match calls.latest? .description with
  | some (_, .describe text) => some text
  | _ => none

/-- When the problem occurred last, having been raised at `birth`. -/
def lastOccurrence (birth : Timestamp) (calls : AlarmCalls) : Timestamp :=
  ((calls.latest? .occurrence).map Prod.fst).getD birth

/-- Who acknowledged the alarm and when, unless that was taken back since. -/
def acknowledgement? (calls : AlarmCalls) : Option (String × Timestamp) :=
  match calls.latest? .acknowledgement with
  | some (time, .acknowledge user) => some (user, time)
  | _ => none

/-- The severity of an alarm that was raised with `first`. -/
def severity (first : Severity) (calls : AlarmCalls) : Severity :=
  match calls.latest? .severity with
  | some (_, .setSeverity severity) => severity
  | some (_, .clear) => .cleared
  | _ => first

def stickyMemo? (calls : AlarmCalls) : Option Memo :=
  match calls.latest? .stickyMemo with
  | some (_, .setStickyMemo memo) => some memo
  | _ => none

def reductionKeyMemo? (calls : AlarmCalls) : Option Memo :=
  match calls.latest? .reductionKeyMemo with
  | some (_, .setReductionKeyMemo memo) => some memo
  | _ => none

/-- What a change answers that follows the calls, to an alarm raised with severity
`first`: what the calls left of its group. -/
def answer (first : Severity) (calls : AlarmCalls) : AlarmChange → Replaced
  | .describe _ | .reduce => .nothing
  | .acknowledge _ | .unacknowledge =>
      .acknowledgement (calls.acknowledgement?.map Prod.fst)
        (calls.acknowledgement?.map Prod.snd)
  | .setSeverity _ | .clear => .severity (calls.severity first)
  | .setStickyMemo _ | .clearStickyMemo => .memo calls.stickyMemo?
  | .setReductionKeyMemo _ | .clearReductionKeyMemo =>
      .memo calls.reductionKeyMemo?

/-- Whether the clock never goes back, from `birth` on. -/
def IsTimely (birth : Timestamp) (calls : AlarmCalls) : Prop :=
  (birth :: calls.map Prod.fst).Pairwise fun earlier later => earlier ≤ later

/-- What calls leave of an alarm that was raised at `birth` with severity `level`, and
what they answer: the latest call of a group decides what the group holds, and every
call answers what the ones before it left of its own group. -/
structure LastWritersWin (calls : AlarmCalls) (birth : Timestamp) (id : AlarmId)
    (uei reductionKey : String) (level : Severity) (final : Alarm)
    (replies : List Replaced) : Prop where
  sameId : final.id = id
  sameUei : final.uei = uei
  sameKey : final.reductionKey = reductionKey
  firstEventTime : final.firstEventTime = birth
  counter : final.counter.toNat =
    min (1 + calls.countP fun call => call.2 == .reduce) (UInt32.size - 1)
  lastEventTime : final.lastEventTime = calls.lastOccurrence birth
  chronological : calls.IsTimely birth → final.isChronological = true
  description : final.description = calls.description?
  ackUser : final.ackUser = calls.acknowledgement?.map Prod.fst
  ackTime : final.ackTime = calls.acknowledgement?.map Prod.snd
  paired : final.ackUser.isSome = final.ackTime.isSome
  acknowledged : final.isAcknowledged = true ↔ ∃ time user,
    calls.latest? .acknowledgement = some (time, .acknowledge user)
  severity : final.severity = calls.severity level
  stickyMemo : final.stickyMemo = calls.stickyMemo?
  reductionKeyMemo : final.reductionKeyMemo = calls.reductionKeyMemo?
  answered : replies.length = calls.length
  answers : ∀ (past : AlarmCalls) now change later,
    calls = past ++ (now, change) :: later →
      replies[past.length]? = some (past.answer level change)
  /-- Calls of different groups, each made when it is made, may change places. -/
  swapped : ∀ past one other later, calls = past ++ one :: other :: later →
    one.2.group ≠ other.2.group →
      ∃ before first second after, before.length = past.length ∧
        replies = before ++ first :: second :: after ∧
        AlarmChange.applyAll (.raise birth id uei reductionKey level)
          (past ++ other :: one :: later) =
            (final, before ++ second :: first :: after)

end AlarmCalls
end AlarmRelay
