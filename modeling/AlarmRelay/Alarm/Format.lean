import AlarmRelay.Alarm
import AlarmRelay.Json.Record
import AlarmRelay.Json.Value

/-!
# The written form of alarms

How severities, memos, alarms and alarm ids are written as JSON and read back.
Optional fields are always written, and read as absent when they are missing.
-/

set_option autoImplicit false

namespace AlarmRelay

open Json

/-- A written form: how values are written and how they are read back. -/
structure Format (α : Type) where
  write : α → Value
  read : Reader α

namespace Format

def encode {α : Type} (format : Format α) (value : α) : String :=
  (format.write value).render

def decode {α : Type} (format : Format α) (text : String) : Except ReadError α :=
  format.read.run text

end Format

namespace Severity

def labels : List String := all.map label

def format : Format Severity where
  write := fun severity => .text severity.label
  read := Reader.label ofLabel? labels

end Severity

def alarmIdFormat : Format AlarmId where
  write := fun id => .number id.toNat
  read := Reader.word32

namespace Memo

def rule : RecordRule where
  title := "Memo"
  fields :=
    [.of "body" Reader.text, .of "author" Reader.text,
      .of "updated_at" Reader.word64]

def read : Reader Memo := fun tree => do
  let members ← rule.members tree
  let body ← members.required "body" Reader.text
  let author ← members.required "author" Reader.text
  let updatedAt ← members.required "updated_at" Reader.word64
  return ⟨body, author, updatedAt⟩

def write (memo : Memo) : Value :=
  .object
    [("body", .text memo.body), ("author", .text memo.author),
      ("updated_at", .number memo.updatedAt.toNat)]

def format : Format Memo := ⟨write, read⟩

end Memo

namespace Alarm

def rule : RecordRule where
  title := "Alarm"
  fields :=
    [.of "id" Reader.word32, .of "reduction_key" Reader.text,
      .of "uei" Reader.text, .of "severity" Severity.format.read,
      .of "description" (Reader.optional Reader.text),
      .of "counter" Reader.word32, .of "first_event_time" Reader.word64,
      .of "last_event_time" Reader.word64,
      .of "ack_user" (Reader.optional Reader.text),
      .of "ack_time" (Reader.optional Reader.word64),
      .of "sticky_memo" (Reader.optional Memo.read),
      .of "reduction_key_memo" (Reader.optional Memo.read)]

def read : Reader Alarm := fun tree => do
  let members ← rule.members tree
  let id ← members.required "id" Reader.word32
  let reductionKey ← members.required "reduction_key" Reader.text
  let uei ← members.required "uei" Reader.text
  let severity ← members.required "severity" Severity.format.read
  let description ← members.optional "description" Reader.text
  let counter ← members.required "counter" Reader.word32
  let firstEventTime ← members.required "first_event_time" Reader.word64
  let lastEventTime ← members.required "last_event_time" Reader.word64
  let ackUser ← members.optional "ack_user" Reader.text
  let ackTime ← members.optional "ack_time" Reader.word64
  let stickyMemo ← members.optional "sticky_memo" Memo.read
  let reductionKeyMemo ← members.optional "reduction_key_memo" Memo.read
  return {
    id, reductionKey, uei, severity, description, counter, firstEventTime,
    lastEventTime, ackUser, ackTime, stickyMemo, reductionKeyMemo }

def write (alarm : Alarm) : Value :=
  .object
    [("id", .number alarm.id.toNat), ("reduction_key", .text alarm.reductionKey),
      ("uei", .text alarm.uei), ("severity", .text alarm.severity.label),
      ("description", .optional .text alarm.description),
      ("counter", .number alarm.counter.toNat),
      ("first_event_time", .number alarm.firstEventTime.toNat),
      ("last_event_time", .number alarm.lastEventTime.toNat),
      ("ack_user", .optional .text alarm.ackUser),
      ("ack_time", .optional (fun time => .number time.toNat) alarm.ackTime),
      ("sticky_memo", .optional Memo.write alarm.stickyMemo),
      ("reduction_key_memo", .optional Memo.write alarm.reductionKeyMemo)]

def format : Format Alarm := ⟨write, read⟩

end Alarm
end AlarmRelay
