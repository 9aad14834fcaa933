import AlarmRelay.Event
import AlarmRelay.HubConfig
import AlarmRelay.Report

/-!
# Log records

Everything the hub, the ready-made listener and the simulated producer write to
the log, one constructor per record, and the written form of each: a level, a
message and named fields.
-/

set_option autoImplicit false

namespace AlarmRelay

/-- Levels of the log, from the gravest to the most verbose. -/
inductive LogLevel where
  | error
  | warn
  | info
  | debug
  | trace
  deriving DecidableEq, Repr

namespace LogLevel

/-- Position on the scale; a larger number is more verbose. -/
def verbosity : LogLevel → Nat
  | .error => 1
  | .warn => 2
  | .info => 3
  | .debug => 4
  | .trace => 5

def label : LogLevel → String
  | .error => "error"
  | .warn => "warn"
  | .info => "info"
  | .debug => "debug"
  | .trace => "trace"

def ofLabel? (text : String) : Option LogLevel :=
  [LogLevel.error, .warn, .info, .debug, .trace].find?
    (fun level => level.label == text)

end LogLevel

inductive LogValue where
  | text (value : String)
  | number (value : Nat)
  | flag (value : Bool)
  deriving DecidableEq, Repr

structure LogEntry where
  level : LogLevel
  message : String
  fields : List (String × LogValue)
  deriving DecidableEq, Repr

/-- Everything that is written to the log. -/
inductive LogRecord where
  | listenerKnown (name : String)
  | listenerRegistered (name : String)
  | listenerUnregistered (name : String)
  | dispatching (kind : String) (id : AlarmId)
  | listenerFailed (name cause : String) (error : ListenerError)
  | snapshotSkipped
  | snapshotDelivered (alarms : Nat) (report : DispatchReport)
  | snapshotFailed (error : SourceError)
  | snapshotPanicked (payload : PanicPayload)
  | schedulerStarted (interval : Duration)
  | schedulerStopped
  | hubCreated (config : HubConfig)
  | hubAlreadyStarted
  | hubStarted (interval : Duration)
  | hubStopped
  /-- The loop that a stop waited for had been killed. -/
  | schedulerKilled
  | alarmSnapshot (listener : String) (alarms : Nat)
  | snapshotEntry (listener : String) (alarm : Alarm)
  | alarmUpserted (listener : String) (alarm : Alarm)
  | alarmDeleted (listener : String) (id : AlarmId) (reductionKey : String)
  | producerStepped (id : AlarmId) (round : Nat)
  | producerStarted (interval : Duration) (alarms : Nat)
  | producerStopped
  deriving DecidableEq, Repr

namespace LogRecord

def idField (id : AlarmId) : String × LogValue :=
  ("id", .text (toString id.toNat))

def entry : LogRecord → LogEntry
  | .listenerKnown name =>
      ⟨.debug, "Listener already registered", [("listener", .text name)]⟩
  | .listenerRegistered name =>
      ⟨.debug, "Listener registered", [("listener", .text name)]⟩
  | .listenerUnregistered name =>
      ⟨.debug, "Listener unregistered", [("listener", .text name)]⟩
  | .dispatching kind id =>
      ⟨.trace, "Dispatching alarm event", [("event", .text kind), idField id]⟩
  | .listenerFailed name cause error =>
      ⟨.error, "Error occurred while invoking listener. Skipping.",
        [("listener", .text name), ("event", .text cause),
          ("error", .text error.message)]⟩
  | .snapshotSkipped =>
      ⟨.trace, "No listeners registered, skipping snapshot", []⟩
  | .snapshotDelivered alarms report =>
      ⟨.debug, "Delivered alarm snapshot",
        [("alarms", .number alarms), ("listeners", .number report.attempted),
          ("failed", .number report.failed)]⟩
  | .snapshotFailed error =>
      ⟨.error, "Error while performing snapshot update.",
        [("error", .text error.message)]⟩
  | .snapshotPanicked payload =>
      ⟨.error, "Snapshot update panicked.", [("panic", .text payload.message)]⟩
  | .schedulerStarted interval =>
      ⟨.info, "Snapshot scheduler started",
        [("interval_ms", .number interval.millisWord)]⟩
  | .schedulerStopped => ⟨.info, "Snapshot scheduler stopped", []⟩
  | .hubCreated config =>
      ⟨.info, "Creating alarm hub with config: " ++ config.inspect, []⟩
  | .hubAlreadyStarted => ⟨.debug, "Alarm hub already started", []⟩
  | .hubStarted interval =>
      ⟨.info, "Alarm hub started",
        [("interval_ms", .number interval.millisWord)]⟩
  | .hubStopped => ⟨.info, "Alarm hub stopped", []⟩
  | .schedulerKilled =>
      ⟨.warn, "Snapshot scheduler exited abnormally",
        [("error", .text "task # was cancelled")]⟩
  | .alarmSnapshot listener alarms =>
      ⟨.debug, "Alarm snapshot",
        [("listener", .text listener), ("alarms", .number alarms)]⟩
  | .snapshotEntry listener alarm =>
      ⟨.trace, "Snapshot entry",
        [("listener", .text listener), idField alarm.id,
          ("reduction_key", .text alarm.reductionKey),
          ("severity", .text alarm.severity.label)]⟩
  | .alarmUpserted listener alarm =>
      ⟨.debug, "Alarm upserted",
        [("listener", .text listener), idField alarm.id,
          ("reduction_key", .text alarm.reductionKey),
          ("severity", .text alarm.severity.label),
          ("acknowledged", .flag alarm.isAcknowledged),
          ("counter", .number alarm.counter.toNat)]⟩
  | .alarmDeleted listener id key =>
      ⟨.debug, "Alarm deleted",
        [("listener", .text listener), idField id,
          ("reduction_key", .text key)]⟩
  | .producerStepped id round =>
      ⟨.debug, "Producer step applied", [idField id, ("round", .number round)]⟩
  | .producerStarted interval alarms =>
      ⟨.info, "Simulated producer started",
        [("interval_ms", .number interval.millisWord),
          ("alarms", .number alarms)]⟩
  | .producerStopped => ⟨.info, "Simulated producer stopped", []⟩

def level (record : LogRecord) : LogLevel := record.entry.level

end LogRecord
end AlarmRelay
