import AlarmRelay.Proofs.Json.Numbers
import Mathlib.Data.List.Nodup

/-!
# Reading records

What a record reader accepts: every field of the rule is given at most once, in any
order and among any other members, and what it is given as passes the field's
check.  An array is read as the object of its items under the names of the fields.
-/

set_option autoImplicit false

namespace AlarmRelay.Json

theorem bind_ok {ε α β : Type} (result : Except ε α) (next : α → Except ε β)
    (value : β) :
    result >>= next = .ok value ↔
      ∃ inner, result = .ok inner ∧ next inner = .ok value := by
  cases result with
  | error cause =>
      refine ⟨fun bound => ?_, fun ⟨_, read, _⟩ => ?_⟩
      · cases bound
      · cases read
  | ok inner =>
      refine ⟨fun bound => ⟨inner, rfl, bound⟩, fun ⟨_, read, bound⟩ => ?_⟩
      cases read
      exact bound

/-- A reader that names what it found gives nothing. -/
theorem mismatch_ok {α : Type} (expected : Expected) (tree : Tree) (value : α) :
    Reader.mismatch expected tree ≠ .ok value := by
  intro read
  obtain ⟨_, _, refused⟩ := (bind_ok _ _ _).mp read
  cases refused

/-! ## Members -/

namespace Members

theorem given_cons (member : String × Tree) (rest : Members) (name : String) :
    given (member :: rest) name =
      if member.1 = name then member.2 :: rest.given name
      else rest.given name := by
  by_cases same : member.1 = name <;> simp [given, same]

theorem lookup_given (members : Members) (name : String) :
    members.lookup name = (members.given name).head? := by
  induction members with
  | nil => rfl
  | cons member rest ih =>
      obtain ⟨key, tree⟩ := member
      by_cases same : key = name
      · subst same
        simp [given_cons]
      · have other : (name == key) = false := by
          simpa using fun equal : name = key => same equal.symm
        simp [given_cons, same, other, List.lookup_cons, ih]

end Members

/-! ## Checks -/

namespace FieldRule

/-- The members give a field at most once, acceptably, and not if it has been seen. -/
def Admits (field : FieldRule) (seen : List String) (members : Members) :
    Prop :=
  members.given field.name = [] ∨
    field.name ∉ seen ∧
      ∃ tree, members.given field.name = [tree] ∧ field.check tree = .ok ()

theorem admits_other (field : FieldRule) (seen : List String) (name : String)
    (tree : Tree) (rest : Members) (other : name ≠ field.name) :
    field.Admits seen ((name, tree) :: rest) ↔
      field.Admits (name :: seen) rest := by
  simp [Admits, Members.given_cons, other, Ne.symm other]

theorem admits_skip (field : FieldRule) (seen : List String) (name : String)
    (tree : Tree) (rest : Members) (other : name ≠ field.name) :
    field.Admits seen ((name, tree) :: rest) ↔ field.Admits seen rest := by
  simp [Admits, Members.given_cons, other]

/-- A field that is given here is not given again. -/
theorem admits_here (field : FieldRule) (seen : List String) (tree : Tree)
    (rest : Members) :
    field.Admits seen ((field.name, tree) :: rest) ↔
      field.name ∉ seen ∧ field.check tree = .ok () ∧
        field.Admits (field.name :: seen) rest := by
  simp only [Admits, Members.given_cons, if_true, reduceCtorEq, false_or,
    List.cons.injEq, List.mem_cons, true_or, not_true_eq_false, false_and,
    or_false]
  constructor
  · rintro ⟨unseen, other, ⟨rfl, once⟩, checked⟩
    exact ⟨unseen, checked, once⟩
  · rintro ⟨unseen, checked, once⟩
    exact ⟨unseen, tree, ⟨rfl, once⟩, checked⟩

end FieldRule

namespace RecordRule

/-- The members give every field at most once, and acceptably. -/
def Admits (rule : RecordRule) (seen : List String) (members : Members) :
    Prop :=
  ∀ field ∈ rule.fields, field.Admits seen members

variable (rule : RecordRule)

theorem field?_none (name : String) (unknown : rule.field? name = none) :
    ∀ field ∈ rule.fields, name ≠ field.name := by
  intro field member same
  have differs := List.find?_eq_none.mp unknown field member
  simp [same] at differs

theorem field?_some (name : String) (field : FieldRule)
    (known : rule.field? name = some field) :
    field ∈ rule.fields ∧ field.name = name :=
  ⟨List.mem_of_find?_eq_some known, by
    simpa using List.find?_some known⟩

theorem checkMembers_iff (seen : List String) (members : Members)
    (distinct : (rule.fields.map FieldRule.name).Nodup) :
    rule.checkMembers seen
        (members.map fun member => (some member.1, member.2)) = .ok () ↔
      rule.Admits seen members := by
  induction members generalizing seen with
  | nil => exact ⟨fun _ field _ => Or.inl rfl, fun _ => rfl⟩
  | cons member rest ih =>
      obtain ⟨name, tree⟩ := member
      rw [List.map_cons, checkMembers]
      cases known : rule.field? name with
      | none =>
          have others := rule.field?_none name known
          rw [ih seen]
          exact forall₂_congr fun field member =>
            (field.admits_skip seen name tree rest (others field member)).symm
      | some field =>
          obtain ⟨member, rfl⟩ := rule.field?_some name field known
          -- No other field has this name, so each of the others is where it was.
          have others : ∀ other ∈ rule.fields, other ≠ field →
              field.name ≠ other.name := by
            intro other otherMember differs same
            exact differs (List.inj_on_of_nodup_map distinct otherMember member
              same.symm)
          by_cases before : field.name ∈ seen
          · have repeated : seen.contains field.name = true := by simpa using before
            simp only [repeated, if_true, reduceCtorEq, false_iff]
            intro admits
            exact ((field.admits_here seen tree rest).mp (admits field member)).1
              before
          · have fresh : seen.contains field.name = false := by simpa using before
            simp only [fresh, Bool.false_eq_true, if_false, bind_ok]
            constructor
            · rintro ⟨_, checked, onward⟩ other otherMember
              have later := (ih (field.name :: seen)).mp onward
              by_cases same : other = field
              · subst same
                exact (other.admits_here seen tree rest).mpr
                  ⟨before, checked, later other member⟩
              · exact (other.admits_other seen _ tree rest
                  (others other otherMember same)).mpr (later other otherMember)
            · intro admits
              obtain ⟨_, checked, _⟩ :=
                (field.admits_here seen tree rest).mp (admits field member)
              refine ⟨(), checked, (ih (field.name :: seen)).mpr ?_⟩
              intro other otherMember
              by_cases same : other = field
              · subst same
                exact ((other.admits_here seen tree rest).mp
                  (admits other otherMember)).2.2
              · exact (other.admits_other seen _ tree rest
                  (others other otherMember same)).mp (admits other otherMember)

theorem checkMembers_named (seen : List String)
    (members : List (Option String × Tree))
    (checked : rule.checkMembers seen members = .ok ()) :
    members = (named members).map fun member => (some member.1, member.2) := by
  induction members generalizing seen with
  | nil => rfl
  | cons member rest ih =>
      obtain ⟨name, tree⟩ := member
      cases name with
      | none => cases checked
      | some name =>
          have onward : ∃ seen, rule.checkMembers seen rest = .ok () := by
            rw [checkMembers] at checked
            split at checked
            · exact ⟨_, checked⟩
            · split at checked
              · cases checked
              · obtain ⟨_, _, later⟩ := (bind_ok _ _ _).mp checked
                exact ⟨_, later⟩
          obtain ⟨later, checked⟩ := onward
          have same := ih later checked
          simp only [named, List.filterMap_cons, Option.map_some, List.map_cons]
            at same ⊢
          rw [← same]

theorem named_map (members : Members) :
    named (members.map fun member => (some member.1, member.2)) = members := by
  induction members with
  | nil => rfl
  | cons member rest ih => exact congrArg (member :: ·) ih

theorem checkItems_iff (closed : Bool) (fields : List FieldRule)
    (items : List Tree) :
    rule.checkItems closed fields items = .ok () ↔
      closed = true ∧ items.length = fields.length ∧
        ∀ pair ∈ fields.zip items, pair.1.check pair.2 = .ok () := by
  induction fields generalizing items with
  | nil =>
      cases closed <;> cases items <;> simp [checkItems]
  | cons field rest ih =>
      cases items with
      | nil => cases closed <;> simp [checkItems]
      | cons item others =>
          simp only [checkItems, bind_ok, ih others, List.length_cons,
            List.zip_cons_cons, List.forall_mem_cons, Nat.succ.injEq]
          constructor
          · rintro ⟨_, checked, shut, length, all⟩
            exact ⟨shut, length, checked, all⟩
          · rintro ⟨shut, length, checked, all⟩
            exact ⟨(), checked, shut, length, all⟩

/-- Under distinct names, items are admitted if each passes its own check. -/
theorem admits_zip (fields : List FieldRule) (items : List Tree)
    (distinct : (fields.map FieldRule.name).Nodup)
    (length : items.length = fields.length) :
    (∀ field ∈ fields,
        field.Admits [] ((fields.map FieldRule.name).zip items)) ↔
      ∀ pair ∈ fields.zip items, pair.1.check pair.2 = .ok () := by
  induction fields generalizing items with
  | nil => simp
  | cons field rest ih =>
      cases items with
      | nil => cases length
      | cons item others =>
          obtain ⟨absent, apart⟩ := List.nodup_cons.mp distinct
          have elsewhere : Members.given
              ((rest.map FieldRule.name).zip others) field.name = [] := by
            simp only [Members.given, List.filterMap_eq_nil_iff]
            intro pair member
            have known := (List.of_mem_zip member).1
            rw [if_neg]
            rintro same
            rw [same] at known
            exact absent known
          have here : field.Admits []
              ((field.name, item) :: (rest.map FieldRule.name).zip others) ↔
                field.check item = .ok () := by
            rw [field.admits_here]
            exact ⟨fun both => both.2.1,
              fun checked => ⟨List.not_mem_nil, checked, Or.inl elsewhere⟩⟩
          have later := ih others apart (Nat.succ.inj length)
          simp only [List.map_cons, List.zip_cons_cons, List.forall_mem_cons,
            here, ← later]
          refine and_congr_right fun _ => forall₂_congr fun other member => ?_
          apply other.admits_skip
          intro same
          exact absent (List.mem_map.mpr ⟨other, member, same.symm⟩)

/-- The members that a tree presents, as an object or as an array. -/
def Presents (tree : Tree) (members : Members) : Prop :=
  tree = .ofMembers members ∨
    ∃ items, tree = .array items true ∧ items.length = rule.fields.length ∧
      members = (rule.fields.map FieldRule.name).zip items

theorem isRecord_iff (names : List String) (holds : Members → Prop)
    (tree : Tree) (same : rule.fields.map FieldRule.name = names) :
    tree.IsRecord names holds ↔
      ∃ members, rule.Presents tree members ∧ holds members := by
  have length : rule.fields.length = names.length := by
    rw [← same, List.length_map]
  constructor
  · rintro (⟨members, rfl, all⟩ | ⟨items, rfl, count, all⟩)
    · exact ⟨members, Or.inl rfl, all⟩
    · exact ⟨_, Or.inr ⟨items, rfl, count.trans length.symm, by rw [same]⟩, all⟩
  · rintro ⟨members, rfl | ⟨items, rfl, count, rfl⟩, all⟩
    · exact Or.inl ⟨members, rfl, all⟩
    · exact Or.inr ⟨items, rfl, count.trans length, by rwa [same] at all⟩

theorem members_iff (tree : Tree) (members : Members)
    (distinct : (rule.fields.map FieldRule.name).Nodup) :
    rule.members tree = .ok members ↔
      rule.Presents tree members ∧ rule.Admits [] members := by
  constructor
  · intro read
    cases tree with
    | object inside closed =>
        obtain ⟨_, checked, shut⟩ := (bind_ok _ _ _).mp read
        cases closed with
        | false => cases shut
        | true =>
            cases shut
            have same := rule.checkMembers_named [] inside checked
            refine ⟨Or.inl (by rw [Tree.ofMembers, ← same]), ?_⟩
            rw [same] at checked
            exact (rule.checkMembers_iff [] _ distinct).mp checked
    | array items closed =>
        obtain ⟨_, checked, shut⟩ := (bind_ok _ _ _).mp read
        cases shut
        obtain ⟨rfl, length, all⟩ := (rule.checkItems_iff _ _ _).mp checked
        exact ⟨Or.inr ⟨items, rfl, length, rfl⟩,
          (admits_zip _ _ distinct length).mpr all⟩
    | _ => exact absurd read (mismatch_ok _ _ _)
  · rintro ⟨rfl | ⟨items, rfl, length, rfl⟩, admits⟩
    · have checked := (rule.checkMembers_iff [] members distinct).mpr admits
      exact (bind_ok _ _ _).mpr ⟨(), checked, congrArg Except.ok (named_map members)⟩
    · have checked := (rule.checkItems_iff true rule.fields items).mpr
        ⟨rfl, length, (admits_zip _ _ distinct length).mp admits⟩
      exact (bind_ok _ _ _).mpr ⟨(), checked, rfl⟩

end RecordRule

/-! ## Fields -/

/-- A reader gives exactly the values that a tree stands for. -/
def Reader.Reads {α : Type} (read : Reader α) (means : Tree → α → Prop) :
    Prop :=
  ∀ tree value, read tree = .ok value ↔ means tree value

section

variable {α : Type} (read : Reader α) (means : Tree → α → Prop)
  (reads : read.Reads means)

theorem check_iff (name : String) (tree : Tree) :
    (FieldRule.of name read).check tree = .ok () ↔
      ∃ value, read tree = .ok value := by
  simp only [FieldRule.of, bind_ok]
  exact ⟨fun ⟨value, found, _⟩ => ⟨value, found⟩,
    fun ⟨value, found⟩ => ⟨value, found, trivial⟩⟩

include reads

theorem required_iff (name : String) (members : Members) (value : α) :
    (FieldRule.of name read).Admits [] members ∧
        members.required name read = .ok value ↔
      members.Gives means name value := by
  constructor
  · rintro ⟨admits, found⟩
    rw [Members.required, members.lookup_given] at found
    rcases admits with nothing | ⟨_, tree, once, _⟩
    · rw [show members.given name = [] from nothing] at found
      cases found
    · rw [show members.given name = [tree] from once] at found
      exact ⟨tree, once, (reads tree value).mp found⟩
  · rintro ⟨tree, once, means⟩
    have found := (reads tree value).mpr means
    refine ⟨Or.inr ⟨List.not_mem_nil, tree, once,
      (check_iff read name tree).mpr ⟨value, found⟩⟩, ?_⟩
    rw [Members.required, members.lookup_given, once]
    exact found

theorem optional_some (tree : Tree) (value : α)
    (silent : ∀ value, ¬ means .null value) :
    Reader.optional read tree = .ok (some value) ↔ means tree value := by
  cases tree with
  | null =>
      refine ⟨fun found => ?_, fun found => absurd found (silent value)⟩
      cases found
  | _ =>
      simp only [Reader.optional, map_ok, Option.some.injEq, exists_eq_right]
      exact reads _ _

omit reads in
theorem optional_none (tree : Tree) :
    Reader.optional read tree = .ok none ↔ tree = .null := by
  cases tree <;> simp [Reader.optional, map_ok]

theorem optional_iff (name : String) (members : Members) (value : Option α)
    (silent : ∀ value, ¬ means .null value) :
    (FieldRule.of name (Reader.optional read)).Admits [] members ∧
        members.optional name read = .ok value ↔
      members.MayGive means name value := by
  have single : ∀ tree, members.given name = [tree] →
      ((FieldRule.of name (Reader.optional read)).Admits [] members ∧
          members.optional name read = .ok value ↔
        Reader.optional read tree = .ok value) := by
    intro tree once
    rw [Members.optional, members.lookup_given, once]
    refine ⟨fun both => both.2, fun found => ⟨?_, found⟩⟩
    exact Or.inr ⟨List.not_mem_nil, tree, once,
      (check_iff _ name tree).mpr ⟨value, found⟩⟩
  constructor
  · rintro ⟨admits, found⟩
    rcases admits with nothing | ⟨_, tree, once, _⟩
    · have missing : members.given name = [] := nothing
      rw [Members.optional, members.lookup_given, missing] at found
      cases found
      exact Or.inl missing
    · have given : members.given name = [tree] := once
      have here := (single tree given).mp
        ⟨Or.inr ⟨List.not_mem_nil, tree, once, ‹_›⟩, found⟩
      cases value with
      | none =>
          rw [(optional_none read tree).mp here] at given
          exact Or.inr given
      | some value =>
          exact ⟨tree, given, (optional_some read means reads tree value silent).mp
            here⟩
  · intro gives
    cases value with
    | none =>
        rcases gives with missing | given
        · refine ⟨Or.inl missing, ?_⟩
          rw [Members.optional, members.lookup_given, missing]
          rfl
        · exact (single .null given).mpr ((optional_none read _).mpr rfl)
    | some value =>
        obtain ⟨tree, given, means'⟩ := gives
        exact (single tree given).mpr
          ((optional_some read means reads tree value silent).mpr means')

end

/-! ## Texts and labels -/

theorem text_reads : Reader.text.Reads Tree.IsText := by
  intro tree value
  cases tree with
  | text known => cases known <;> simp [Reader.text, Tree.IsText, mismatch_ok]
  | _ => simp [Reader.text, Tree.IsText, mismatch_ok]

theorem nothing_iff (tree : Tree) (value : Unit) :
    Reader.nothing tree = .ok value ↔ tree = .null := by
  cases tree <;> simp [Reader.nothing, mismatch_ok]

section

variable {α : Type} (label : α → String) (ofLabel? : String → Option α)
  (known : List String)
  (inverse : ∀ text value, ofLabel? text = some value ↔ text = label value)

include inverse

theorem label_text (text : String) (value : α) :
    Reader.label ofLabel? known (.text (some text)) = .ok value ↔
      text = label value := by
  rw [← inverse text value]
  simp only [Reader.label]
  cases ofLabel? text <;> simp

theorem label_object (text : String) (content : Tree) (closed : Bool)
    (rest : List (Option String × Tree)) (value : α) :
    Reader.label ofLabel? known
        (.object ((some text, content) :: rest) closed) = .ok value ↔
      text = label value ∧ content = .null ∧ closed = true ∧ rest = [] := by
  have steps : Reader.label ofLabel? known
      (.object ((some text, content) :: rest) closed) =
        Reader.label ofLabel? known (.text (some text)) >>= fun value =>
          Reader.nothing content >>= fun _ =>
            if closed && rest.isEmpty then .ok value else .error .malformed := rfl
  simp only [steps, bind_ok, label_text label ofLabel? known inverse, nothing_iff]
  cases closed <;> cases rest <;> simp

theorem label_reads :
    (Reader.label ofLabel? known).Reads (Tree.IsLabel label) := by
  intro tree value
  cases tree with
  | text spelled =>
      cases spelled with
      | none => simp [Reader.label, Tree.IsLabel]
      | some text =>
          rw [label_text label ofLabel? known inverse]
          simp [Tree.IsLabel]
  | object members closed =>
      match members with
      | [] => simp [Reader.label, Tree.IsLabel]
      | (none, content) :: rest => simp [Reader.label, Tree.IsLabel]
      | (some text, content) :: rest =>
          rw [label_object label ofLabel? known inverse]
          simp only [Tree.IsLabel, reduceCtorEq, false_or, Tree.object.injEq,
            List.cons.injEq, Prod.mk.injEq, Option.some.injEq]
          constructor
          · rintro ⟨same, silent, shut, alone⟩
            exact ⟨⟨⟨same, silent⟩, alone⟩, shut⟩
          · rintro ⟨⟨⟨same, silent⟩, alone⟩, shut⟩
            exact ⟨same, silent, shut, alone⟩
  | _ => simp [Reader.label, Tree.IsLabel]

end

end AlarmRelay.Json
