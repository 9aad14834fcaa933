import AlarmRelay.Config.Given
import AlarmRelay.Proofs.Toml.Sight

/-!
# Layout

Another layout of the same settings says the same about the fields: what is said of a
place depends neither on the order of assertions nor on one that does not reach the
place, and a table between braces says of its members what a key for each would say.
-/

set_option autoImplicit false

namespace AlarmRelay

open Toml

namespace Toml

theorem says_of_mem (first second : List Assertion) (place : List String)
    (sight : Sight) (said : ∀ assertion ∈ first,
      assertion.states place = some sight →
        ∃ other ∈ second, other.states place = some sight)
    (items : ∀ assertion ∈ second, assertion.subject = .item →
      assertion.path <+: place → assertion ∈ first)
    (stated : Says first place sight) : Says second place sight := by
  obtain ⟨⟨assertion, member, saying⟩, shown⟩ := stated
  exact ⟨said assertion member saying, fun other known item above =>
    shown other (items other known item above) item above⟩

theorem says_perm (first second : List Assertion) (same : first.Perm second)
    (place : List String) (sight : Sight) :
    Says first place sight ↔ Says second place sight := by
  constructor
  · exact says_of_mem first second place sight
      (fun assertion member saying => ⟨assertion, same.mem_iff.mp member, saying⟩)
      (fun assertion member _ _ => same.mem_iff.mpr member)
  · exact says_of_mem second first place sight
      (fun assertion member saying => ⟨assertion, same.mem_iff.mpr member, saying⟩)
      (fun assertion member _ _ => same.mem_iff.mp member)

/-- Assertions matter to a place only if they say something of it or hide it. -/
theorem says_replace (before old new after : List Assertion)
    (place : List String) (sight : Sight)
    (said : (∃ assertion ∈ old, assertion.states place = some sight) ↔
      ∃ assertion ∈ new, assertion.states place = some sight)
    (oldPlain : ∀ assertion ∈ old, assertion.subject = .item →
      ¬ assertion.path <+: place)
    (newPlain : ∀ assertion ∈ new, assertion.subject = .item →
      ¬ assertion.path <+: place) :
    Says (before ++ old ++ after) place sight ↔
      Says (before ++ new ++ after) place sight := by
  have swap : ∀ first second : List Assertion,
      ((∃ assertion ∈ first, assertion.states place = some sight) →
        ∃ assertion ∈ second, assertion.states place = some sight) →
      (∀ assertion ∈ second, assertion.subject = .item →
        ¬ assertion.path <+: place) →
      Says (before ++ first ++ after) place sight →
        Says (before ++ second ++ after) place sight := by
    intro first second stated plain
    apply says_of_mem
    · intro assertion member saying
      simp only [List.mem_append] at member
      rcases member with (left | here) | right
      · exact ⟨assertion, by simp [left], saying⟩
      · obtain ⟨other, known, said⟩ := stated ⟨assertion, here, saying⟩
        exact ⟨other, by simp [known], said⟩
      · exact ⟨assertion, by simp [right], saying⟩
    · intro assertion member item above
      simp only [List.mem_append] at member ⊢
      rcases member with (left | here) | right
      · exact Or.inl (Or.inl left)
      · exact absurd above (plain assertion here item)
      · exact Or.inr right
  exact ⟨swap old new said.mp newPlain, swap new old said.mpr oldPlain⟩

/-- An assertion that says nothing of a place and does not hide it may be left
out. -/
theorem says_drop (before after : List Assertion) (assertion : Assertion)
    (place : List String) (sight : Sight)
    (silent : assertion.states place ≠ some sight)
    (plain : assertion.subject = .item → ¬ assertion.path <+: place) :
    Says (before ++ assertion :: after) place sight ↔
      Says (before ++ after) place sight := by
  have swapped := says_replace before [assertion] [] after place sight
    (by simp [silent]) (by simpa using plain) (by simp)
  simpa using swapped

theorem lookup_eq_some_iff_mem (members : Members) (name : String) (value : Value)
    (single : (members.map Prod.fst).Nodup) :
    members.lookup name = some value ↔ (name, value) ∈ members := by
  induction members with
  | nil => simp
  | cons head rest ih =>
      obtain ⟨key, first⟩ := head
      simp only [List.map_cons, List.nodup_cons] at single
      by_cases same : name = key
      · subst same
        have absent : (name, value) ∉ rest :=
          fun member => single.1 (List.mem_map_of_mem member)
        simp [absent, eq_comm]
      · have apart : (name == key) = false := by simpa using same
        simp [List.lookup_cons, apart, same, ih single.2]

end Toml

namespace Config

/-! ## The same settings -/

section

variable (before after : List Assertion)

theorem sayAlike_reorders (first second : List Assertion)
    (same : first.Perm second) : SayAlike first second :=
  fun _ _ sight => ⟨says_perm first second same _ sight,
    fun _ => says_perm first second same _ sight⟩

/-- A header says only that its section is a table. -/
theorem sayAlike_heads (part : String) :
    SayAlike (before ++ ⟨[part], .table⟩ :: after) (before ++ after) := by
  intro field _ sight
  refine ⟨says_drop before after _ _ sight ?_ (by simp),
    fun untabled => says_drop before after _ _ sight ?_ (by simp)⟩
  · simp only [Assertion.states, Subject.shows]
    split <;> simp [Subject.sight]
  · simp only [Assertion.states, Subject.shows]
    split <;> simp [Subject.sight, untabled.symm]

/-- What stands between braces is what a key for each member would put there. -/
theorem says_members (part key name : String) (members : Members)
    (single : (members.map Prod.fst).Nodup) (sight : Sight) :
    Assertion.states ⟨[part], .value (.table members)⟩ [key, name] = some sight ↔
      ∃ assertion ∈ memberKeys part members,
        assertion.states [key, name] = some sight := by
  simp only [Assertion.states, memberKeys, List.mem_map]
  by_cases here : part = key
  · subst here
    simp only [Subject.shows, if_pos, Subject.sight, Value.sight,
      Option.bind_eq_some_iff, lookup_eq_some_iff_mem members name _ single]
    constructor
    · rintro ⟨value, member, shown⟩
      exact ⟨_, ⟨(name, value), member, rfl⟩,
        by simp [Subject.shows, shown, Subject.sight]⟩
    · rintro ⟨_, ⟨⟨other, value⟩, member, rfl⟩, shown⟩
      simp only [Subject.shows, if_pos, Option.ite_none_right_eq_some] at shown
      obtain ⟨rfl, shown⟩ := shown
      exact ⟨value, member, shown⟩
  · constructor
    · intro shown
      simp [Subject.shows, here] at shown
    · rintro ⟨_, ⟨entry, _, rfl⟩, shown⟩
      simp [Subject.shows, here] at shown

/-- Either spelling makes the section a table, and says no more of a section. -/
theorem says_section (part key : String) (members : Members) (sight : Sight)
    (untabled : sight ≠ .table) :
    Assertion.states ⟨[part], .value (.table members)⟩ [key] = some sight ↔
      ∃ assertion ∈ memberKeys part members, assertion.states [key] = some sight := by
  simp only [Assertion.states, memberKeys, List.mem_map]
  constructor
  · intro shown
    simp [Subject.shows, Subject.sight, Value.sight, untabled.symm] at shown
  · rintro ⟨_, ⟨entry, _, rfl⟩, shown⟩
    simp [Subject.shows, untabled.symm] at shown

theorem sayAlike_inlines (part : String) (members : Members)
    (single : (members.map Prod.fst).Nodup) :
    SayAlike (before ++ ⟨[part], .value (.table members)⟩ :: after)
      (before ++ memberKeys part members ++ after) := by
  have plain : ∀ place, ∀ assertion ∈ memberKeys part members,
      assertion.subject = .item → ¬ assertion.path <+: place := by
    intro place assertion member item
    obtain ⟨entry, _, rfl⟩ := List.mem_map.mp member
    cases item
  have replaced : ∀ place sight,
      (Assertion.states ⟨[part], .value (.table members)⟩ place = some sight ↔
        ∃ assertion ∈ memberKeys part members,
          assertion.states place = some sight) →
      (Says (before ++ ⟨[part], .value (.table members)⟩ :: after) place sight ↔
        Says (before ++ memberKeys part members ++ after) place sight) := by
    intro place sight same
    rw [List.append_cons]
    exact says_replace before [_] _ after place sight (by simpa using same) (by simp)
      (plain place)
  intro field _ sight
  exact ⟨replaced _ _ (says_members part field.part field.name members single sight),
    fun untabled =>
      replaced _ _ (says_section part field.part members sight untabled)⟩

theorem sayAlike_ignores (assertion : Assertion) (named : assertion.path ≠ [])
    (stranger : ∀ field ∈ fields, assertion.path ≠ [field.part] ∧
      ¬ [field.part, field.name] <+: assertion.path) :
    SayAlike (before ++ assertion :: after) (before ++ after) := by
  intro field member sight
  obtain ⟨apart, beside⟩ := stranger field member
  have unheard : ¬ assertion.path <+: [field.part, field.name] := by
    intro above
    simp only [List.prefix_cons_iff, List.prefix_nil] at above
    rcases above with none | ⟨_, path, rfl | ⟨_, rfl, rfl⟩⟩
    · exact named none
    · exact apart path
    · exact beside (path ▸ List.prefix_rfl)
  have higher : ¬ assertion.path <+: [field.part] :=
    fun above => unheard (above.trans (List.prefix_append [field.part] [field.name]))
  refine ⟨says_drop before after assertion _ sight ?_ fun _ => unheard,
    fun untabled => says_drop before after assertion _ sight ?_ fun _ => higher⟩
  · intro said
    exact (assertion.subject.shows_comparable _ _ sight said).elim beside unheard
  · intro said
    have way := (assertion.subject.shows_comparable _ _ sight said).resolve_right
      higher
    rw [Assertion.states, assertion.subject.shows_way _ _ way (Ne.symm apart)] at said
    exact untabled (Option.some.inj said).symm

end

theorem respells_alike (first second : List Assertion)
    (respells : Respells first second) : SayAlike first second := by
  cases respells with
  | reorders _ _ same => exact sayAlike_reorders first second same
  | heads before after part => exact sayAlike_heads before after part
  | inlines before after part members single =>
      exact sayAlike_inlines before after part members single
  | ignores before after assertion named stranger =>
      exact sayAlike_ignores before after assertion named stranger

theorem sayAlike_symm (first second : List Assertion)
    (alike : SayAlike first second) : SayAlike second first :=
  fun field member sight => ⟨(alike field member sight).1.symm,
    fun untabled => ((alike field member sight).2 untabled).symm⟩

theorem sayAlike_trans (first second third : List Assertion)
    (alike : SayAlike first second) (more : SayAlike second third) :
    SayAlike first third :=
  fun field member sight =>
    ⟨(alike field member sight).1.trans (more field member sight).1,
      fun untabled => ((alike field member sight).2 untabled).trans
        ((more field member sight).2 untabled)⟩

/-- Any number of changes of layout, either way. -/
theorem relaid_alike (first second : List Assertion)
    (relaid : Relation.EqvGen Respells first second) : SayAlike first second := by
  induction relaid with
  | rel first second respells => exact respells_alike first second respells
  | refl asserted => exact fun _ _ _ => ⟨Iff.rfl, fun _ => Iff.rfl⟩
  | symm first second _ ih => exact sayAlike_symm first second ih
  | trans first second third _ _ ih more =>
      exact sayAlike_trans first second third ih more

end Config
end AlarmRelay
