import AlarmRelay.Event
import AlarmRelay.Report

/-!
# Metrics

The hub's measurements as changes to one ledger that every hub of a process
shares.  A name appears in the ledger once it has first been used.
-/

set_option autoImplicit false

namespace AlarmRelay

namespace MetricName

def events : String := "alarmcast_events_total"

def listenerFailures : String := "alarmcast_listener_failures_total"

def listenersActive : String := "alarmcast_listeners_active"

def snapshotTicks : String := "alarmcast_snapshot_ticks_total"

def snapshotAlarms : String := "alarmcast_snapshot_alarms"

def dispatchSeconds : String := "alarmcast_dispatch_seconds"

end MetricName

inductive MetricKind where
  | counter
  | gauge
  | histogram
  deriving DecidableEq, Repr

def MetricKind.label : MetricKind → String
  | .counter => "counter"
  | .gauge => "gauge"
  | .histogram => "histogram"

inductive MetricChange where
  | event (kind : String)
  | listenerFailure (path : String)
  /-- A registry's size changed by this much. -/
  | listeners (delta : Int)
  | tick (outcome : String)
  /-- A snapshot of so many alarms is about to be fanned out. -/
  | snapshotSize (alarms : Nat)
  /-- A fan-out on this path ended; only the observation is counted. -/
  | latency (path : String)
  | describe
  deriving DecidableEq, Repr

/-- Labelled counts in the order of their first use. -/
abbrev Tally := List (String × Nat)

namespace Tally

def count (tally : Tally) (label : String) : Nat :=
  (tally.lookup label).getD 0

def bump (label : String) : Tally → Tally
  | [] => [(label, 1)]
  | (other, count) :: rest =>
      if other = label then (other, count + 1) :: rest
      else (other, count) :: bump label rest

end Tally

structure Ledger where
  events : Tally
  failures : Tally
  ticks : Tally
  /-- Registered listeners, once a registry has changed size. -/
  listeners : Option Int
  snapshotSizes : List Nat
  latencies : Tally
  described : Bool
  deriving DecidableEq, Repr

namespace Ledger

def empty : Ledger := ⟨[], [], [], none, [], [], false⟩

instance : Inhabited Ledger := ⟨empty⟩

def record (ledger : Ledger) : MetricChange → Ledger
  | .event kind => { ledger with events := ledger.events.bump kind }
  | .listenerFailure path =>
      { ledger with failures := ledger.failures.bump path }
  | .listeners delta =>
      { ledger with listeners := some (ledger.listeners.getD 0 + delta) }
  | .tick outcome => { ledger with ticks := ledger.ticks.bump outcome }
  | .snapshotSize alarms =>
      { ledger with snapshotSizes := ledger.snapshotSizes ++ [alarms] }
  | .latency path => { ledger with latencies := ledger.latencies.bump path }
  | .describe => { ledger with described := true }

def recordAll (ledger : Ledger) (changes : List MetricChange) : Ledger :=
  changes.foldl record ledger

/-- The gauge of registered listeners; it starts at zero. -/
def listenersActive (ledger : Ledger) : Int :=
  ledger.listeners.getD 0

def labelled (name key label : String) : String :=
  name ++ "\x7b" ++ key ++ "=" ++ label ++ "\x7d"

/-- Counts under a metric name, one series per label. -/
def series (name key : String) (tally : Tally) : List (String × Nat) :=
  tally.map (fun (label, count) => (labelled name key label, count))

def counters (ledger : Ledger) : List (String × Nat) :=
  series MetricName.events "kind" ledger.events
    ++ series MetricName.listenerFailures "path" ledger.failures
    ++ series MetricName.snapshotTicks "outcome" ledger.ticks

def gauges (ledger : Ledger) : List (String × Int) :=
  match ledger.listeners with
  | none => []
  | some value => [(MetricName.listenersActive, value)]

/-- The observed snapshot sizes, once there is one. -/
def sizes (ledger : Ledger) : List (String × List Nat) :=
  match ledger.snapshotSizes with
  | [] => []
  | values => [(MetricName.snapshotAlarms, values)]

def observations (ledger : Ledger) : List (String × Nat) :=
  series MetricName.dispatchSeconds "path" ledger.latencies

def descriptions : List (String × MetricKind × String) :=
  [(MetricName.events, .counter, "Total number of lifecycle events dispatched"),
    (MetricName.listenerFailures, .counter,
      "Total number of failed listener deliveries"),
    (MetricName.listenersActive, .gauge,
      "Current number of listeners across all hubs in the process"),
    (MetricName.snapshotTicks, .counter,
      "Total number of snapshot scheduler ticks"),
    (MetricName.snapshotAlarms, .histogram,
      "Number of alarms in each delivered snapshot"),
    (MetricName.dispatchSeconds, .histogram,
      "Time spent fanning out a single delivery in seconds")]

def describedMetrics (ledger : Ledger) : List (String × MetricKind × String) :=
  if ledger.described then descriptions else []

end Ledger
end AlarmRelay
