import AlarmRelay.Alarm

/-!
# Lifecycle events and deliveries

An event is one incremental change to an alarm, as a producer announces it.  A
delivery is what a listener is handed: the whole set of alarms, one alarm, or
the keys of a deleted one.
-/

set_option autoImplicit false

namespace AlarmRelay

/-- The changes that announce the alarm as it is now. -/
inductive ContentKind where
  | created
  | updated
  | acknowledged
  | unacknowledged
  | severityChanged
  | stickyMemoUpdated
  | stickyMemoDeleted
  | reductionKeyMemoUpdated
  | reductionKeyMemoDeleted
  deriving DecidableEq, Repr

namespace ContentKind

def all : List ContentKind :=
  [.created, .updated, .acknowledged, .unacknowledged, .severityChanged,
    .stickyMemoUpdated, .stickyMemoDeleted, .reductionKeyMemoUpdated,
    .reductionKeyMemoDeleted]

def label : ContentKind → String
  | .created => "created"
  | .updated => "updated"
  | .acknowledged => "acknowledged"
  | .unacknowledged => "unacknowledged"
  | .severityChanged => "severity_changed"
  | .stickyMemoUpdated => "sticky_memo_updated"
  | .stickyMemoDeleted => "sticky_memo_deleted"
  | .reductionKeyMemoUpdated => "reduction_key_memo_updated"
  | .reductionKeyMemoDeleted => "reduction_key_memo_deleted"

def ofLabel? (text : String) : Option ContentKind :=
  all.find? (fun kind => kind.label == text)

end ContentKind

/-- One incremental change to an alarm. -/
inductive AlarmEvent where
  /-- The alarm was created or changed; it is carried in full. -/
  | content (kind : ContentKind) (alarm : Alarm)
  /-- The record may already be gone, so only its keys are carried. -/
  | deleted (id : AlarmId) (reductionKey : String)
  deriving DecidableEq, Repr

namespace AlarmEvent

/-- The event announcing that `alarm` is gone, with its keys as they are now. -/
def deletionOf (alarm : Alarm) : AlarmEvent :=
  .deleted alarm.id alarm.reductionKey

def label : AlarmEvent → String
  | .content kind _ => kind.label
  | .deleted _ _ => "deleted"

/-- The carried alarm; a deletion carries none. -/
def alarm? : AlarmEvent → Option Alarm
  | .content _ alarm => some alarm
  | .deleted _ _ => none

def alarmId : AlarmEvent → AlarmId
  | .content _ alarm => alarm.id
  | .deleted id _ => id

def reductionKey : AlarmEvent → String
  | .content _ alarm => alarm.reductionKey
  | .deleted _ key => key

end AlarmEvent

/-- The listener operation that a delivery calls. -/
inductive DeliveryPath where
  | snapshot
  | upsert
  | delete
  deriving DecidableEq, Repr

def DeliveryPath.label : DeliveryPath → String
  | .snapshot => "snapshot"
  | .upsert => "upsert"
  | .delete => "delete"

/-- One notification as listeners see it. -/
inductive Delivery where
  | snapshot (alarms : List Alarm)
  | upsert (alarm : Alarm)
  | delete (id : AlarmId) (reductionKey : String)
  deriving DecidableEq, Repr

namespace Delivery

def ofEvent : AlarmEvent → Delivery
  | .content _ alarm => .upsert alarm
  | .deleted id key => .delete id key

def path : Delivery → DeliveryPath
  | .snapshot _ => .snapshot
  | .upsert _ => .upsert
  | .delete _ _ => .delete

end Delivery
end AlarmRelay
