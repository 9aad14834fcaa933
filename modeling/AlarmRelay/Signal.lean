import AlarmRelay.Log
import AlarmRelay.Metrics

/-!
# Signals

What a step of the hub shows to the outside besides its result: log records and
measurements, in the order in which they are made.
-/

set_option autoImplicit false

namespace AlarmRelay

inductive Signal where
  | log (record : LogRecord)
  | metric (change : MetricChange)
  deriving DecidableEq, Repr

namespace Signal

def logs (signals : List Signal) : List LogRecord :=
  signals.filterMap fun
    | .log record => some record
    | .metric _ => none

def metrics (signals : List Signal) : List MetricChange :=
  signals.filterMap fun
    | .log _ => none
    | .metric change => some change

end Signal
end AlarmRelay
