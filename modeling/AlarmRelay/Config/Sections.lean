import AlarmRelay.Config
import AlarmRelay.Toml.Document

/-!
# Settings from a document

A section is a table of its fields, or an array of them in order.  A field that
is not given takes its default, one of the wrong kind or size makes the document
unusable, and names that mean nothing are passed over, as are further items.
-/

set_option autoImplicit false

namespace AlarmRelay.Config

open Toml

/-- The fields of a section, by name.  A date or time is a section without any. -/
def fieldsOf (names : List String) : Value → Option Members
  | .table members => some members
  | .array items => some (names.zip items)
  | .moment _ => some []
  | _ => none

def natBelow (limit : Nat) : Value → Option Nat
  | .integer value =>
      if 0 ≤ value ∧ value < limit then some value.toNat else none
  | _ => none

def flag : Value → Option Bool
  | .flag value => some value
  | _ => none

/-- What a document gives for a name, or else the default. -/
def field {α : Type} (read : Value → Option α) (fallback : α) (name : String)
    (members : Members) : Option α :=
  match members.lookup name with
  | some value => read value
  | none => some fallback

def hubSection (standard : HubSection) (value : Value) : Option HubSection := do
  let fields ← fieldsOf ["snapshot_interval_ms"] value
  let interval ← field (natBelow UInt64.size) standard.snapshotIntervalMs.toNat
    "snapshot_interval_ms" fields
  return ⟨UInt64.ofNat interval⟩

def metricsSection (standard : MetricsSection) (value : Value) :
    Option MetricsSection := do
  let fields ← fieldsOf ["enabled", "port"] value
  let enabled ← field flag standard.enabled "enabled" fields
  let port ← field (natBelow UInt16.size) standard.port.toNat "port" fields
  return ⟨enabled, UInt16.ofNat port⟩

def producerSection (standard : ProducerSection) (value : Value) :
    Option ProducerSection := do
  let fields ← fieldsOf ["enabled", "event_interval_ms", "max_alarms"] value
  let enabled ← field flag standard.enabled "enabled" fields
  let interval ← field (natBelow UInt64.size) standard.eventIntervalMs.toNat
    "event_interval_ms" fields
  let alarms ← field (natBelow UInt32.size) standard.maxAlarms.toNat
    "max_alarms" fields
  return ⟨enabled, UInt64.ofNat interval, UInt32.ofNat alarms⟩

/-- The settings that a document gives, completed by `standard`. -/
def ofDocument (standard : Config) (document : Members) : Option Config := do
  let hub ← field (hubSection standard.hub) standard.hub "hub" document
  let metrics ←
    field (metricsSection standard.metrics) standard.metrics "metrics" document
  let producer ←
    field (producerSection standard.producer) standard.producer "producer" document
  return ⟨hub, metrics, producer⟩

/-- The settings that a text gives, completed from the environment. -/
def ofText? (environment : Environment) (text : String) : Option Config := do
  let document ← Toml.parse? text
  ofDocument (standard environment) document

end AlarmRelay.Config
