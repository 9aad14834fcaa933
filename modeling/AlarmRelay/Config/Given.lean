import AlarmRelay.Config.Load
import AlarmRelay.Toml.Sight
import Mathlib.Logic.Relation

/-!
# Which setting counts

A text gives a value for a field under the name of the field in its section, or at
the place of the field in an array that stands for the section.  What it gives comes
before the default, the default of two fields comes from the environment if it can,
and how the text is laid out does not matter.
-/

set_option autoImplicit false

namespace AlarmRelay

/-- A variable holds a number: decimal digits, perhaps behind a plus sign. -/
def Environment.Holds (setting : Option String) (number : Nat) : Prop :=
  ∃ text digits, setting = some text ∧
    (text.toList = digits ∨ text.toList = '+' :: digits) ∧
      digits ≠ [] ∧ (∀ c ∈ digits, c.isDigit = true) ∧
        Text.valueIn 10 digits = number

namespace Config

open Toml

/-- What a field can be: a flag, or a number below a limit. -/
inductive Kind where
  | flag
  | number (limit : Nat)

def Kind.Fits : Kind → Value → Prop
  | .flag, value => ∃ given, value = .flag given
  | .number limit, value => ∃ given < limit, value = .integer (given : Nat)

/-- A field of a configuration. -/
structure Field where
  /-- The section that it belongs to. -/
  part : String
  /-- Its place in an array that stands for the section. -/
  index : Nat
  name : String
  kind : Kind
  /-- What it is in a configuration. -/
  view : Config → Value

def fields : List Field :=
  [⟨"hub", 0, "snapshot_interval_ms", .number UInt64.size,
      fun config => .integer config.hub.snapshotIntervalMs.toNat⟩,
    ⟨"metrics", 0, "enabled", .flag, fun config => .flag config.metrics.enabled⟩,
    ⟨"metrics", 1, "port", .number UInt16.size,
      fun config => .integer config.metrics.port.toNat⟩,
    ⟨"producer", 0, "enabled", .flag, fun config => .flag config.producer.enabled⟩,
    ⟨"producer", 1, "event_interval_ms", .number UInt64.size,
      fun config => .integer config.producer.eventIntervalMs.toNat⟩,
    ⟨"producer", 2, "max_alarms", .number UInt32.size,
      fun config => .integer config.producer.maxAlarms.toNat⟩]

/-- A text gives a value for a field. -/
inductive Field.Gives (field : Field) (text : String) : Value → Prop where
  | named (value : Value)
      (told : Tells text [field.part, field.name] (.value value)) :
      Gives field text value
  | listed (items : List Value) (value : Value)
      (told : Tells text [field.part] (.value (.array items)))
      (item : items[field.index]? = some value) : Gives field text value

/-- A text can be read at a field: its section is a table, an array or a moment, its
name stands for a value, and whatever is given for it fits. -/
structure Field.Takes (field : Field) (text : String) : Prop where
  part : ∀ sight, Tells text [field.part] sight → sight = .table ∨
    (∃ items, sight = .value (.array items)) ∨
      ∃ moment, sight = .value (.moment moment)
  single : ∀ sight, Tells text [field.part, field.name] sight →
    ∃ value, sight = .value value
  fits : ∀ value, field.Gives text value → field.kind.Fits value

/-- Assertions say the same about the fields.  That a section is a table says nothing
about them. -/
def SayAlike (first second : List Assertion) : Prop :=
  ∀ field ∈ fields, ∀ sight,
    (Says first [field.part, field.name] sight ↔
      Says second [field.part, field.name] sight) ∧
    (sight ≠ .table →
      (Says first [field.part] sight ↔ Says second [field.part] sight))

/-- What keys for the members of a section assert. -/
def memberKeys (part : String) (members : Members) : List Assertion :=
  members.map fun (name, value) => ⟨[part, name], .value value⟩

/-- Another layout of the same settings. -/
inductive Respells : List Assertion → List Assertion → Prop where
  /-- Sections and keys come in another order. -/
  | reorders (first second : List Assertion) (same : first.Perm second) :
      Respells first second
  /-- A section has a header of its own. -/
  | heads (before after : List Assertion) (part : String) :
      Respells (before ++ ⟨[part], .table⟩ :: after) (before ++ after)
  /-- The keys of a section stand between braces. -/
  | inlines (before after : List Assertion) (part : String) (members : Members)
      (single : (members.map Prod.fst).Nodup) :
      Respells (before ++ ⟨[part], .value (.table members)⟩ :: after)
        (before ++ memberKeys part members ++ after)
  /-- A key or a section means nothing. -/
  | ignores (before after : List Assertion) (assertion : Assertion)
      (named : assertion.path ≠ [])
      (stranger : ∀ field ∈ fields, assertion.path ≠ [field.part] ∧
        ¬ [field.part, field.name] <+: assertion.path) :
      Respells (before ++ assertion :: after) (before ++ after)

/-- The file that counts is the one in the current directory; if there is none, that
of the machine; if there is neither, that of the user. -/
inductive Counts (files : Files) : Location → Content → Prop where
  | current (content : Content)
      (exist : files (.given "alarmcast.toml") = some content) :
      Counts files (.given "alarmcast.toml") content
  | machine (content : Content)
      (noCurrent : files (.given "alarmcast.toml") = none)
      (exist : files (.given "/etc/alarmcast/alarmcast.toml") = some content) :
      Counts files (.given "/etc/alarmcast/alarmcast.toml") content
  | user (content : Content)
      (noCurrent : files (.given "alarmcast.toml") = none)
      (noMachine : files (.given "/etc/alarmcast/alarmcast.toml") = none)
      (exist : files (.home ".config/alarmcast/alarmcast.toml") = some content) :
      Counts files (.home ".config/alarmcast/alarmcast.toml") content

/-- What becomes of a file at a location.  A file that is of no use is an error that
names its location. -/
inductive Becomes (environment : Environment) (location : Location) :
    Content → Except ConfigError Config → Prop where
  | directory :
      Becomes environment location .directory (.error (.unreadable location))
  | binary (bytes : ByteArray) (noText : String.fromUTF8? bytes = none) :
      Becomes environment location (.file bytes) (.error (.unreadable location))
  | undecodable (bytes : ByteArray) (text : String)
      (isText : String.fromUTF8? bytes = some text)
      (undecoded : ofText? environment text = none) :
      Becomes environment location (.file bytes) (.error (.undecodable location))
  | decodes (bytes : ByteArray) (text : String) (config : Config)
      (isText : String.fromUTF8? bytes = some text)
      (decoded : ofText? environment text = some config) :
      Becomes environment location (.file bytes) (.ok config)

/-- Which of the settings for a field counts. -/
structure Precedence (environment : Environment) : Prop where
  /-- A text that is TOML decodes if it can be read at every field. -/
  decodes : ∀ text, (ofText? environment text).isSome = true ↔
    (parse? text).isSome = true ∧ ∀ field ∈ fields, field.Takes text
  /-- A field that is given is what the text gives. -/
  given : ∀ text config, ofText? environment text = some config →
    ∀ field ∈ fields, ∀ value, field.Gives text value → field.view config = value
  /-- Any other field is what it is by default. -/
  absent : ∀ text config, ofText? environment text = some config →
    ∀ field ∈ fields, (∀ value, ¬ field.Gives text value) →
      field.view config = field.view (standard environment)
  /-- Layout decides neither whether a text decodes nor what it comes to. -/
  relaid : ∀ text other statements others,
    statements? text = some statements → statements? other = some others →
    (parse? text).isSome = true → (parse? other).isSome = true →
    Relation.EqvGen Respells (assertions [] statements) (assertions [] others) →
      ofText? environment text = ofText? environment other
  interval : ∀ number < UInt64.size,
    Environment.Holds environment.snapshotIntervalMs number →
      (standard environment).hub.snapshotIntervalMs.toNat = number
  intervalUnset :
    (∀ number < UInt64.size,
      ¬ Environment.Holds environment.snapshotIntervalMs number) →
      (standard environment).hub.snapshotIntervalMs.toNat = 5000
  port : ∀ number < UInt16.size,
    Environment.Holds environment.metricsPort number →
      (standard environment).metrics.port.toNat = number
  portUnset :
    (∀ number < UInt16.size, ¬ Environment.Holds environment.metricsPort number) →
      (standard environment).metrics.port.toNat = 9090
  others : (standard environment).metrics.enabled = true ∧
    (standard environment).producer = ⟨true, 1000, 16⟩
  /-- The first file that exists is loaded, whatever becomes of it. -/
  found : ∀ files location content, Counts files location content →
    load environment files = ofFile environment files location ∧
      Becomes environment location content (load environment files)
  nowhere : ∀ files, (∀ location content, ¬ Counts files location content) →
    load environment files = .ok (standard environment)

end Config
end AlarmRelay
