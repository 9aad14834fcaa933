import AlarmRelay.Signal

/-!
# Listeners

A listener is registered through a handle.  Handles are compared by identity,
never by name or content.  The ready-made tracing listener writes every
notification to the log; the counting listener only counts what it receives.
-/

set_option autoImplicit false

namespace AlarmRelay

structure Listener where
  id : Nat
  name : String
  deriving DecidableEq, Repr

/-- Two handles are the same listener when they share an identity. -/
def Listener.isSame (a b : Listener) : Bool := a.id == b.id

namespace TracingListener

def defaultName : String := "tracing"

/-- What a tracing listener writes on a notification; it accepts every one. -/
def records (name : String) : Delivery → List LogRecord
  | .snapshot alarms =>
      .alarmSnapshot name alarms.length
        :: alarms.map (LogRecord.snapshotEntry name)
  | .upsert alarm => [.alarmUpserted name alarm]
  | .delete id key => [.alarmDeleted name id key]

end TracingListener

namespace CountingListener

/-- What a notification adds to the count: one per alarm it names. -/
def weight : Delivery → Nat
  | .snapshot alarms => alarms.length
  | .upsert _ | .delete _ _ => 1

end CountingListener
end AlarmRelay
