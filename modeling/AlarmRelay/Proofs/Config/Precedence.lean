import AlarmRelay.Proofs.Config.Layout
import AlarmRelay.Proofs.Config.Reading

/-!
# Precedence of settings

A text that decodes decides each field that it gives a value for, and the others are
what they are by default; how the text is laid out does not matter.  The defaults of
two fields come from the environment, and the first file that exists is the one that
counts.
-/

set_option autoImplicit false

namespace AlarmRelay

open Toml

namespace Environment

theorem number?_eq_some (text : String) (number : Nat) :
    number? text = some number ↔ Holds (some text) number := by
  have reads : ∀ digits : List Char,
      (if !digits.isEmpty && digits.all Char.isDigit then
        some (Text.valueIn 10 digits) else none) = some number ↔
      digits ≠ [] ∧ (∀ c ∈ digits, c.isDigit = true) ∧
        Text.valueIn 10 digits = number := by
    intro digits
    simp [and_assoc]
  unfold number?
  constructor
  · intro read
    have spelled := (reads _).mp read
    refine ⟨text, _, rfl, ?_, spelled⟩
    split
    · rename_i rest signed
      exact Or.inr signed
    · exact Or.inl rfl
  · rintro ⟨_, digits, same, bare | signed, filled, every, value⟩
    · cases same
      rw [bare]
      refine (reads _).mpr ?_
      split
      · exact absurd (every '+' List.mem_cons_self) (by decide)
      · exact ⟨filled, every, value⟩
    · cases same
      rw [signed]
      exact (reads digits).mpr ⟨filled, every, value⟩

theorem numberBelow_holds (limit number : Nat) (setting : Option String)
    (fallback : Nat) (holds : Holds setting number) (below : number < limit) :
    numberBelow limit setting fallback = number := by
  obtain ⟨text, digits, rfl, spelled⟩ := holds
  have read := (number?_eq_some text number).mpr ⟨text, digits, rfl, spelled⟩
  simp [numberBelow, read, Option.filter, below]

theorem numberBelow_unset (limit : Nat) (setting : Option String) (fallback : Nat)
    (unset : ∀ number, number < limit → ¬ Holds setting number) :
    numberBelow limit setting fallback = fallback := by
  cases setting with
  | none => rfl
  | some text =>
      cases read : number? text with
      | none => simp [numberBelow, read]
      | some number =>
          have holds := (number?_eq_some text number).mp read
          have beyond : ¬ number < limit := fun below => unset number below holds
          simp [numberBelow, read, Option.filter, beyond]

/-! Either variable decides its default if it holds a number of the right size. -/

section

variable (environment : Environment)

theorem defaultInterval_holds (number : Nat) (below : number < UInt64.size)
    (holds : Holds environment.snapshotIntervalMs number) :
    environment.defaultInterval.toNat = number := by
  rw [defaultInterval, numberBelow_holds _ number _ _ holds below]
  exact UInt64.toNat_ofNat_of_lt' below

theorem defaultInterval_unset
    (unset : ∀ number < UInt64.size,
      ¬ Holds environment.snapshotIntervalMs number) :
    environment.defaultInterval.toNat = 5000 := by
  rw [defaultInterval, numberBelow_unset _ _ _ unset]
  rfl

theorem defaultPort_holds (number : Nat) (below : number < UInt16.size)
    (holds : Holds environment.metricsPort number) :
    environment.defaultPort.toNat = number := by
  rw [defaultPort, numberBelow_holds _ number _ _ holds below]
  exact UInt16.toNat_ofNat_of_lt' below

theorem defaultPort_unset
    (unset : ∀ number < UInt16.size, ¬ Holds environment.metricsPort number) :
    environment.defaultPort.toNat = 9090 := by
  rw [defaultPort, numberBelow_unset _ _ _ unset]
  rfl

end

end Environment

namespace Config

/-! ## Layout -/

/-- Two documents that show the same of a field settle it alike. -/
theorem settle_congr {α : Type} (members other : Nodes) (part : String)
    (index : Nat) (name : String) (read : Value → Option α) (fallback : α)
    (below : members.look [part, name] = other.look [part, name])
    (above : ∀ look, look ≠ .sight .table →
      (members.look [part] = some look ↔ other.look [part] = some look)) :
    settle members part index name read fallback =
      settle other part index name read fallback := by
  have plain : ∀ members : Nodes,
      (∀ look, look ≠ .sight .table → members.look [part] ≠ some look) →
        settle members part index name read fallback =
          readLook read fallback (members.look [part, name]) := by
    intro members nothing
    cases shown : members.look [part] with
    | none => simp [settle, shown]
    | some look =>
        by_cases table : look = .sight .table
        · simp [settle, shown, table]
        · exact absurd shown (nothing look table)
  by_cases special : ∃ look, look ≠ .sight .table ∧ members.look [part] = some look
  · obtain ⟨look, apart, shown⟩ := special
    have same := (above look apart).mp shown
    simp only [settle, shown, same, below]
  · have nothing : ∀ look, look ≠ .sight .table →
        members.look [part] ≠ some look :=
      fun look apart shown => special ⟨look, apart, shown⟩
    rw [plain members nothing, below, plain other]
    exact fun look apart shown => nothing look apart ((above look apart).mpr shown)

/-- What a text does not say about the fields does not matter. -/
theorem ofText?_alike (environment : Environment) (text other : String)
    (statements others : List Statement)
    (scanned : statements? text = some statements)
    (otherScanned : statements? other = some others)
    (valid : (Toml.parse? text).isSome = true)
    (otherValid : (Toml.parse? other).isSome = true)
    (alike : SayAlike (assertions [] statements) (assertions [] others)) :
    ofText? environment text = ofText? environment other := by
  obtain ⟨document, parsed⟩ := Option.isSome_iff_exists.mp valid
  obtain ⟨second, otherParsed⟩ := Option.isSome_iff_exists.mp otherValid
  obtain ⟨members, rfl, shown⟩ := parse_reflects text statements document scanned
    parsed
  obtain ⟨nodes, rfl, otherShown⟩ := parse_reflects other others second otherScanned
    otherParsed
  rw [ofText?_document environment text _ parsed,
    ofText?_document environment other _ otherParsed,
    ofDocument_look members shown.filled, ofDocument_look nodes otherShown.filled]
  have looks : ∀ place, place ≠ [] → ∀ sight,
      (Says (assertions [] statements) place sight ↔
        Says (assertions [] others) place sight) →
        (members.look place = some (.sight sight) ↔
          nodes.look place = some (.sight sight)) := by
    intro place below sight same
    rw [shown.looks place sight below, otherShown.looks place sight below, same]
  have settles : ∀ field ∈ fields, ∀ {α : Type} (read : Value → Option α)
      (fallback : α),
      settle members field.part field.index field.name read fallback =
        settle nodes field.part field.index field.name read fallback := by
    intro field member α read fallback
    apply settle_congr
    · apply Option.ext
      intro look
      cases look with
      | empty => simp [shown.filled, otherShown.filled]
      | sight sight => exact looks _ (by simp) sight (alike field member sight).1
    · intro look apart
      cases look with
      | empty => simp [shown.filled, otherShown.filled]
      | sight sight =>
          refine looks _ (by simp) sight ((alike field member sight).2 ?_)
          rintro rfl
          exact apart rfl
  simp only [fields, List.forall_mem_cons] at settles
  obtain ⟨interval, exported, port, producing, pace, alarms, _⟩ := settles
  simp only [ofLook, interval, exported, port, producing, pace, alarms]

/-! ## Where the settings come from -/

section

variable (files : Files)

/-- The file that counts is the first one that exists on the search path. -/
theorem counts_first (location : Location) (content : Content)
    (counts : Counts files location content) :
    files location = some content ∧
      searchPath.find? (fun place => (files place).isSome) = some location := by
  cases counts with
  | current _ exist => exact ⟨exist, by simp [searchPath, exist]⟩
  | machine _ noCurrent exist =>
      exact ⟨exist, by simp [searchPath, noCurrent, exist]⟩
  | user _ noCurrent noMachine exist =>
      exact ⟨exist, by simp [searchPath, noCurrent, noMachine, exist]⟩

theorem uncounted_nowhere
    (uncounted : ∀ location content, ¬ Counts files location content) :
    searchPath.find? (fun place => (files place).isSome) = none := by
  have noCurrent : files (.given "alarmcast.toml") = none :=
    Option.eq_none_iff_forall_ne_some.mpr fun content exist =>
      uncounted _ content (.current content exist)
  have noMachine : files (.given "/etc/alarmcast/alarmcast.toml") = none :=
    Option.eq_none_iff_forall_ne_some.mpr fun content exist =>
      uncounted _ content (.machine content noCurrent exist)
  have noUser : files (.home ".config/alarmcast/alarmcast.toml") = none :=
    Option.eq_none_iff_forall_ne_some.mpr fun content exist =>
      uncounted _ content (.user content noCurrent noMachine exist)
  simp [searchPath, noCurrent, noMachine, noUser]

variable (environment : Environment)

theorem ofFile_becomes (location : Location) (content : Content)
    (exist : files location = some content) :
    Becomes environment location content
      (ofFile environment files location) := by
  cases content with
  | directory =>
      have result : ofFile environment files location =
          .error (.unreadable location) := by
        simp [ofFile, exist, Content.text?]
      rw [result]
      exact .directory
  | file bytes =>
      have opened : (files location).bind Content.text? =
          String.fromUTF8? bytes := by
        rw [exist]
        rfl
      rw [ofFile, opened]
      cases isText : String.fromUTF8? bytes with
      | none => exact .binary bytes isText
      | some text =>
          cases decoded : ofText? environment text with
          | none => simpa only [decoded] using .undecodable bytes text isText decoded
          | some config =>
              simpa only [decoded] using .decodes bytes text config isText decoded

theorem load_found (location : Location) (content : Content)
    (counts : Counts files location content) :
    load environment files = ofFile environment files location ∧
      Becomes environment location content (load environment files) := by
  obtain ⟨exist, first⟩ := counts_first files location content counts
  have loaded : load environment files = ofFile environment files location := by
    rw [load, first]
  rw [loaded]
  exact ⟨rfl, ofFile_becomes files environment location content exist⟩

theorem load_nowhere
    (uncounted : ∀ location content, ¬ Counts files location content) :
    load environment files = .ok (standard environment) := by
  rw [load, uncounted_nowhere files uncounted]

end

/-- A file becomes one thing only. -/
theorem becomes_unique (environment : Environment) (location : Location)
    (content : Content) (first second : Except ConfigError Config)
    (one : Becomes environment location content first)
    (other : Becomes environment location content second) : first = second := by
  cases one <;> cases other <;> simp_all

/-- What is given comes before what is standard, and the environment before the
numbers that stand for it. -/
theorem settings_take_precedence (environment : Environment) :
    Precedence environment where
  decodes := ofText?_decodes environment
  given := fun text config decoded field member =>
    (ofText?_follows environment text config decoded field member).1
  absent := fun text config decoded field member =>
    (ofText?_follows environment text config decoded field member).2
  relaid := by
    intro text other statements others scanned otherScanned valid otherValid relaid
    exact ofText?_alike environment text other statements others scanned
      otherScanned valid otherValid (relaid_alike _ _ relaid)
  interval := environment.defaultInterval_holds
  intervalUnset := environment.defaultInterval_unset
  port := environment.defaultPort_holds
  portUnset := environment.defaultPort_unset
  others := ⟨rfl, rfl⟩
  found := fun files => load_found files environment
  nowhere := fun files => load_nowhere files environment

/-- A text with a section in braces, a dotted key and a header that settles two of the
fields. -/
def mixedText : String :=
  "hub = \x7b unknown = 1 \x7d\nproducer.enabled = false\n[metrics]\nport = 80"

/-- An interval that can be used and a port that is too large. -/
def oddEnvironment : Environment := ⟨some "+7", some "70000"⟩

/-- These files and no others. -/
def onlyFiles (contents : List (Location × Content)) : Files :=
  fun location => contents.lookup location

theorem mixed_decodes :
    ofText? oddEnvironment mixedText =
      some ⟨⟨7⟩, ⟨true, 80⟩, ⟨false, 1000, 16⟩⟩ := by
  decide +kernel

/-- A file that does not decode hides a good one, and so does a directory.  The
environment sets the interval and leaves the port alone. -/
theorem settings_take_precedence_misplaced :
    load oddEnvironment (onlyFiles
        [(.given "alarmcast.toml", .file "port =".toUTF8),
          (.home ".config/alarmcast/alarmcast.toml", .file mixedText.toUTF8)]) =
      .error (.undecodable (.given "alarmcast.toml")) ∧
    load oddEnvironment (onlyFiles
        [(.given "/etc/alarmcast/alarmcast.toml", .directory),
          (.home ".config/alarmcast/alarmcast.toml", .file mixedText.toUTF8)]) =
      .error (.unreadable (.given "/etc/alarmcast/alarmcast.toml")) ∧
    load oddEnvironment (onlyFiles
        [(.home ".config/alarmcast/alarmcast.toml", .file mixedText.toUTF8)]) =
      .ok ⟨⟨7⟩, ⟨true, 80⟩, ⟨false, 1000, 16⟩⟩ ∧
    load oddEnvironment (onlyFiles []) = .ok (standard oddEnvironment) ∧
    (standard oddEnvironment).hub.snapshotIntervalMs.toNat = 7 ∧
    (standard oddEnvironment).metrics.port.toNat = 9090 := by
  have order := settings_take_precedence oddEnvironment
  refine ⟨?_, ?_, ?_, ?_, ?_, ?_⟩
  · exact becomes_unique _ _ _ _ _ (order.found _ _ _ (.current _ rfl)).2
      (.undecodable _ "port =" (by decide +kernel) (by decide +kernel))
  · exact becomes_unique _ _ _ _ _ (order.found _ _ _ (.machine _ rfl rfl)).2
      .directory
  · exact becomes_unique _ _ _ _ _ (order.found _ _ _ (.user _ rfl rfl rfl)).2
      (.decodes _ mixedText _ (by decide +kernel) mixed_decodes)
  · apply order.nowhere
    intro location content counts
    cases counts with
    | current _ exist => cases exist
    | machine _ _ exist => cases exist
    | user _ _ _ exist => cases exist
  · exact order.interval 7 (by decide)
      ⟨"+7", ['7'], rfl, Or.inr (by decide), by decide,
        List.forall_mem_singleton.mpr rfl, by decide⟩
  · apply order.portUnset
    intro number below holds
    have large : Environment.number? "70000" = some 70000 := by decide
    have read := (Environment.number?_eq_some _ _).mpr holds
    rw [large, Option.some.injEq] at read
    subst read
    exact absurd below (by decide)

end Config
end AlarmRelay
