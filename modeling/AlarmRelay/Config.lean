import AlarmRelay.HubConfig
import AlarmRelay.Text.Digit

/-!
# Service configuration

Settings of the service around the hub, in three sections.  Two defaults can be
set through the environment; a variable that does not hold a number of the right
size counts as unset.
-/

set_option autoImplicit false

namespace AlarmRelay

structure HubSection where
  snapshotIntervalMs : UInt64
  deriving DecidableEq, Repr

structure MetricsSection where
  enabled : Bool
  port : UInt16
  deriving DecidableEq, Repr

structure ProducerSection where
  enabled : Bool
  eventIntervalMs : UInt64
  /-- Number of distinct alarms that the producer cycles through. -/
  maxAlarms : UInt32
  deriving DecidableEq, Repr

structure Config where
  hub : HubSection
  metrics : MetricsSection
  producer : ProducerSection
  deriving DecidableEq, Repr

/-- The variables of the environment that matter. -/
structure Environment where
  snapshotIntervalMs : Option String
  metricsPort : Option String
  deriving DecidableEq, Repr

namespace Environment

/-- The number that a variable holds: digits behind an optional plus sign. -/
def number? (text : String) : Option Nat :=
  let digits := match text.toList with
    | '+' :: rest => rest
    | chars => chars
  if !digits.isEmpty && digits.all Char.isDigit then
    some (Text.valueIn 10 digits)
  else none

/-- The number below a limit that a variable holds, or else a fallback. -/
def numberBelow (limit : Nat) (setting : Option String) (fallback : Nat) : Nat :=
  ((setting.bind number?).filter (· < limit)).getD fallback

def defaultInterval (environment : Environment) : UInt64 :=
  UInt64.ofNat (numberBelow UInt64.size environment.snapshotIntervalMs 5000)

def defaultPort (environment : Environment) : UInt16 :=
  UInt16.ofNat (numberBelow UInt16.size environment.metricsPort 9090)

end Environment

namespace Config

def standard (environment : Environment) : Config where
  hub := { snapshotIntervalMs := environment.defaultInterval }
  metrics := { enabled := true, port := environment.defaultPort }
  producer := { enabled := true, eventIntervalMs := 1000, maxAlarms := 16 }

def hubConfig (config : Config) : HubConfig :=
  ⟨.ofMillis config.hub.snapshotIntervalMs.toNat⟩

def inspectRecord (title : String) (fields : List (String × String)) : String :=
  title ++ " \x7b "
    ++ ", ".intercalate (fields.map fun (name, value) => name ++ ": " ++ value)
    ++ " \x7d"

def inspectFlag (value : Bool) : String := if value then "true" else "false"

def inspect (config : Config) : String :=
  inspectRecord "Config"
    [("hub", inspectRecord "HubSection"
        [("snapshot_interval_ms", toString config.hub.snapshotIntervalMs.toNat)]),
      ("metrics", inspectRecord "MetricsConfig"
        [("enabled", inspectFlag config.metrics.enabled),
          ("port", toString config.metrics.port.toNat)]),
      ("producer", inspectRecord "ProducerConfig"
        [("enabled", inspectFlag config.producer.enabled),
          ("event_interval_ms", toString config.producer.eventIntervalMs.toNat),
          ("max_alarms", toString config.producer.maxAlarms.toNat)])]

end Config
end AlarmRelay
