import AlarmRelay.Proofs.Config.Fields

/-!
# What a text settles

A text that decodes decides each field that it gives a value for, and the others are
what they are by default; and it decodes exactly when it can be read at every field.
-/

set_option autoImplicit false

namespace AlarmRelay

open Toml

namespace Config

/-! ## What a text tells -/

theorem parse_reflects (text : String) (statements : List Statement)
    (document : Members) (scanned : statements? text = some statements)
    (parsed : Toml.parse? text = some document) :
    ∃ members : Nodes, document = Node.finishMembers members ∧
      members.Reflects (assertions [] statements) := by
  apply document_reflects
  simpa [Toml.parse?, scanned] using parsed

/-- What a document shows is what its text tells. -/
theorem parse_tells (text : String) (document : Members)
    (parsed : Toml.parse? text = some document) :
    ∃ members : Nodes, document = Node.finishMembers members ∧
      (∀ place, members.look place ≠ some .empty) ∧
      ∀ place sight, place ≠ [] →
        (members.look place = some (.sight sight) ↔ Tells text place sight) := by
  obtain ⟨statements, scanned, _⟩ := Option.bind_eq_some_iff.mp parsed
  obtain ⟨members, finished, reflects⟩ :=
    parse_reflects text statements document scanned parsed
  refine ⟨members, finished, reflects.filled, fun place sight below => ?_⟩
  rw [reflects.looks place sight below]
  constructor
  · intro stated
    exact ⟨statements, scanned, stated⟩
  · rintro ⟨others, again, stated⟩
    rw [scanned] at again
    cases again
    exact stated

section

variable {α : Type} (members : Nodes) (text : String) (field : Field)
  (tells : ∀ place sight, place ≠ [] →
    (members.look place = some (.sight sight) ↔ Tells text place sight))
  {read : Value → Option α} {fallback result : α}
  (settled : settle members field.part field.index field.name read fallback =
    some result)

include tells settled

/-- A value that is given is the one that is read. -/
theorem settle_given (value : Value) (gives : field.Gives text value) :
    read value = some result := by
  cases gives with
  | named _ told =>
      have shown := (tells _ _ (by simp)).mpr told
      have table := members.look_above [field.part] [field.name] _ (by simp) shown
      simpa [settle, table, shown, readLook] using settled
  | listed items _ told item =>
      have shown := (tells _ _ (by simp)).mpr told
      simpa [settle, shown, item] using settled

/-- Without a value the fallback holds. -/
theorem settle_absent (absent : ∀ value, ¬ field.Gives text value) :
    result = fallback := by
  have unnamed : readLook read fallback
      (members.look [field.part, field.name]) = some result →
        result = fallback := by
    intro came
    cases shown : members.look [field.part, field.name] with
    | none =>
        rw [shown] at came
        exact (Option.some.inj came).symm
    | some look =>
        rw [shown] at came
        cases look with
        | empty => cases came
        | sight sight =>
            cases sight with
            | value value =>
                exact absurd (.named value ((tells _ _ (by simp)).mp shown))
                  (absent value)
            | table => cases came
            | tables => cases came
  unfold settle at settled
  split at settled
  · exact unnamed settled
  · exact unnamed settled
  · rename_i items shown
    split at settled
    · exact (Option.some.inj settled).symm
    · rename_i value item
      exact absurd (.listed items value ((tells _ _ (by simp)).mp shown) item)
        (absent value)
  · exact (Option.some.inj settled).symm
  · cases settled

end

theorem natBelow_exact (limit : Nat) (value : Value) (number : Nat)
    (read : natBelow limit value = some number) :
    number < limit ∧ .integer number = value := by
  cases value with
  | integer given =>
      simp only [natBelow, Option.ite_none_right_eq_some, Option.some.injEq]
        at read
      obtain ⟨⟨positive, below⟩, rfl⟩ := read
      refine ⟨by omega, ?_⟩
      rw [Int.toNat_of_nonneg positive]
  | _ => cases read

theorem flag_exact (value : Value) (result : Bool)
    (read : flag value = some result) : .flag result = value := by
  cases value with
  | flag given => cases read; rfl
  | _ => cases read

theorem natBelow_fits (limit : Nat) (value : Value) :
    (natBelow limit value).isSome = true ↔ (Kind.number limit).Fits value := by
  rw [Option.isSome_iff_exists]
  constructor
  · rintro ⟨number, read⟩
    obtain ⟨below, same⟩ := natBelow_exact limit value number read
    exact ⟨number, below, same.symm⟩
  · rintro ⟨number, below, rfl⟩
    exact ⟨number, by simp [natBelow, below]⟩

theorem flag_fits (value : Value) :
    (flag value).isSome = true ↔ Kind.flag.Fits value := by
  rw [Option.isSome_iff_exists]
  constructor
  · rintro ⟨given, read⟩
    exact ⟨given, (flag_exact value given read).symm⟩
  · rintro ⟨given, rfl⟩
    exact ⟨given, rfl⟩

section

variable (members : Nodes) (text : String) (field : Field)
  (tells : ∀ place sight, place ≠ [] →
    (members.look place = some (.sight sight) ↔ Tells text place sight))

include tells

theorem flag_follows (result fallback : Bool)
    (settled : settle members field.part field.index field.name flag fallback =
      some result) :
    (∀ value, field.Gives text value → .flag result = value) ∧
      ((∀ value, ¬ field.Gives text value) →
        Value.flag result = .flag fallback) := by
  constructor
  · intro value gives
    exact flag_exact value result
      (settle_given members text field tells settled value gives)
  · intro absent
    rw [settle_absent members text field tells settled absent]

/-- A number that is kept in a type of its size. -/
theorem number_follows (limit result fallback : Nat) (keep : Nat → Nat)
    (keeps : ∀ number, number < limit → keep number = number)
    (below : fallback < limit)
    (settled : settle members field.part field.index field.name
      (natBelow limit) fallback = some result) :
    (∀ value, field.Gives text value → .integer (keep result) = value) ∧
      ((∀ value, ¬ field.Gives text value) →
        Value.integer (keep result) = .integer fallback) := by
  constructor
  · intro value gives
    obtain ⟨within, same⟩ := natBelow_exact limit value result
      (settle_given members text field tells settled value gives)
    rw [keeps result within, same]
  · intro absent
    rw [settle_absent members text field tells settled absent,
      keeps fallback below]

end

/-- Every field follows the text, and otherwise the standard. -/
theorem ofLook_follows (standard config : Config) (members : Nodes) (text : String)
    (tells : ∀ place sight, place ≠ [] →
      (members.look place = some (.sight sight) ↔ Tells text place sight))
    (given : ofLook standard members = some config) (field : Field)
    (member : field ∈ fields) :
    (∀ value, field.Gives text value → field.view config = value) ∧
      ((∀ value, ¬ field.Gives text value) →
        field.view config = field.view standard) := by
  simp only [ofLook, Option.bind_eq_bind, Option.bind_eq_some_iff,
    Option.pure_def, Option.some.injEq] at given
  obtain ⟨interval, hubInterval, exported, metricsEnabled, port, metricsPort,
    producing, producerEnabled, pace, producerInterval, alarms, producerAlarms,
    rfl⟩ := given
  simp only [fields, List.mem_cons, List.not_mem_nil, or_false] at member
  rcases member with rfl | rfl | rfl | rfl | rfl | rfl
  · exact number_follows members text _ tells _ interval _
      (fun number => (UInt64.ofNat number).toNat)
      (fun _ below => UInt64.toNat_ofNat_of_lt' below)
      (UInt64.toNat_lt _) hubInterval
  · exact flag_follows members text _ tells exported _ metricsEnabled
  · exact number_follows members text _ tells _ port _
      (fun number => (UInt16.ofNat number).toNat)
      (fun _ below => UInt16.toNat_ofNat_of_lt' below)
      (UInt16.toNat_lt _) metricsPort
  · exact flag_follows members text _ tells producing _ producerEnabled
  · exact number_follows members text _ tells _ pace _
      (fun number => (UInt64.ofNat number).toNat)
      (fun _ below => UInt64.toNat_ofNat_of_lt' below)
      (UInt64.toNat_lt _) producerInterval
  · exact number_follows members text _ tells _ alarms _
      (fun number => (UInt32.ofNat number).toNat)
      (fun _ below => UInt32.toNat_ofNat_of_lt' below)
      (UInt32.toNat_lt _) producerAlarms

/-! ## Which texts decode -/

section

variable {α : Type} (members : Nodes) (text : String) (field : Field)
  (tells : ∀ place sight, place ≠ [] →
    (members.look place = some (.sight sight) ↔ Tells text place sight))
  {read : Value → Option α} (fallback : α)
  (fitting : ∀ value, (read value).isSome = true ↔ field.kind.Fits value)

include tells fitting

/-- A field that is settled can be read. -/
theorem takes_of_settle (result : α)
    (settled : settle members field.part field.index field.name read fallback =
      some result) : field.Takes text where
  part := by
    intro sight told
    have shown := (tells _ _ (by simp)).mpr told
    simp only [settle, shown] at settled
    cases sight with
    | table => exact Or.inl rfl
    | tables => cases settled
    | value value =>
        cases value with
        | array items => exact Or.inr (Or.inl ⟨items, rfl⟩)
        | moment moment => exact Or.inr (Or.inr ⟨moment, rfl⟩)
        | _ => cases settled
  single := by
    intro sight told
    have shown := (tells _ _ (by simp)).mpr told
    have table := members.look_above [field.part] [field.name] _ (by simp) shown
    simp only [settle, table, shown] at settled
    cases sight with
    | value value => exact ⟨value, rfl⟩
    | table => cases settled
    | tables => cases settled
  fits := by
    intro value gives
    rw [← fitting, settle_given members text field tells settled value gives]
    rfl

/-- A field that can be read is settled. -/
theorem settle_of_takes (filled : ∀ place, members.look place ≠ some .empty)
    (takes : field.Takes text) :
    ∃ result, settle members field.part field.index field.name read fallback =
      some result := by
  have reads : ∀ value, field.Gives text value →
      ∃ result, read value = some result :=
    fun value gives => Option.isSome_iff_exists.mp
      ((fitting value).mpr (takes.fits value gives))
  have named : ∃ result, readLook read fallback
      (members.look [field.part, field.name]) = some result := by
    cases shown : members.look [field.part, field.name] with
    | none => exact ⟨fallback, rfl⟩
    | some look =>
        cases look with
        | empty => exact absurd shown (filled _)
        | sight sight =>
            have told := (tells _ _ (by simp)).mp shown
            obtain ⟨value, rfl⟩ := takes.single sight told
            exact reads value (.named value told)
  unfold settle
  cases shown : members.look [field.part] with
  | none => exact named
  | some look =>
      cases look with
      | empty => exact absurd shown (filled _)
      | sight sight =>
          have told := (tells _ _ (by simp)).mp shown
          rcases takes.part sight told with rfl | ⟨items, rfl⟩ | ⟨moment, rfl⟩
          · exact named
          · cases item : items[field.index]? with
            | none => exact ⟨fallback, by simp [item]⟩
            | some value =>
                obtain ⟨result, came⟩ := reads value (.listed items value told item)
                exact ⟨result, by simp [item, came]⟩
          · exact ⟨fallback, rfl⟩

end

/-- A document decodes exactly when its text can be read at every field. -/
theorem ofLook_takes (standard : Config) (members : Nodes) (text : String)
    (filled : ∀ place, members.look place ≠ some .empty)
    (tells : ∀ place sight, place ≠ [] →
      (members.look place = some (.sight sight) ↔ Tells text place sight)) :
    (ofLook standard members).isSome = true ↔
      ∀ field ∈ fields, field.Takes text := by
  simp only [fields, List.forall_mem_cons]
  constructor
  · intro decodes
    obtain ⟨config, given⟩ := Option.isSome_iff_exists.mp decodes
    simp only [ofLook, Option.bind_eq_bind, Option.bind_eq_some_iff] at given
    obtain ⟨interval, hubInterval, exported, metricsEnabled, port, metricsPort,
      producing, producerEnabled, pace, producerInterval, alarms, producerAlarms,
      _⟩ := given
    exact ⟨takes_of_settle members text _ tells _ (natBelow_fits _) _ hubInterval,
      takes_of_settle members text _ tells _ flag_fits _ metricsEnabled,
      takes_of_settle members text _ tells _ (natBelow_fits _) _ metricsPort,
      takes_of_settle members text _ tells _ flag_fits _ producerEnabled,
      takes_of_settle members text _ tells _ (natBelow_fits _) _ producerInterval,
      takes_of_settle members text _ tells _ (natBelow_fits _) _ producerAlarms,
      by simp⟩
  · rintro ⟨interval, exported, port, producing, pace, alarms, _⟩
    obtain ⟨_, hubInterval⟩ := settle_of_takes members text _ tells
      standard.hub.snapshotIntervalMs.toNat (natBelow_fits _) filled interval
    obtain ⟨_, metricsEnabled⟩ := settle_of_takes members text _ tells
      standard.metrics.enabled flag_fits filled exported
    obtain ⟨_, metricsPort⟩ := settle_of_takes members text _ tells
      standard.metrics.port.toNat (natBelow_fits _) filled port
    obtain ⟨_, producerEnabled⟩ := settle_of_takes members text _ tells
      standard.producer.enabled flag_fits filled producing
    obtain ⟨_, producerInterval⟩ := settle_of_takes members text _ tells
      standard.producer.eventIntervalMs.toNat (natBelow_fits _) filled pace
    obtain ⟨_, producerAlarms⟩ := settle_of_takes members text _ tells
      standard.producer.maxAlarms.toNat (natBelow_fits _) filled alarms
    simp only [ofLook, hubInterval, metricsEnabled, metricsPort, producerEnabled,
      producerInterval, producerAlarms]
    rfl

theorem ofText?_document (environment : Environment) (text : String)
    (document : Members) (parsed : Toml.parse? text = some document) :
    ofText? environment text = ofDocument (standard environment) document := by
  simp [ofText?, parsed]

theorem ofText?_follows (environment : Environment) (text : String)
    (config : Config) (decoded : ofText? environment text = some config)
    (field : Field) (member : field ∈ fields) :
    (∀ value, field.Gives text value → field.view config = value) ∧
      ((∀ value, ¬ field.Gives text value) →
        field.view config = field.view (standard environment)) := by
  obtain ⟨document, parsed, given⟩ := Option.bind_eq_some_iff.mp decoded
  obtain ⟨members, rfl, filled, tells⟩ := parse_tells text document parsed
  rw [ofDocument_look members filled] at given
  exact ofLook_follows _ config members text tells given field member

theorem ofText?_decodes (environment : Environment) (text : String) :
    (ofText? environment text).isSome = true ↔
      (Toml.parse? text).isSome = true ∧ ∀ field ∈ fields, field.Takes text := by
  cases parsed : Toml.parse? text with
  | none => simp [ofText?, parsed]
  | some document =>
      obtain ⟨members, rfl, filled, tells⟩ := parse_tells text document parsed
      rw [ofText?_document environment text _ parsed, ofDocument_look members filled,
        ofLook_takes _ members text filled tells]
      simp

end Config
end AlarmRelay
