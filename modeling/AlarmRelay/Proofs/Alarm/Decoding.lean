import AlarmRelay.Alarm.Shape
import AlarmRelay.Proofs.Json.Soundness
import AlarmRelay.Proofs.Json.Records

/-!
# Decoding by the fields

A memo or an alarm is decoded from its fields alone.  Which texts decode, and to
what, is said by what is given under the known names; the order of the members,
blanks, members of other names and their values play no part.
-/

set_option autoImplicit false

namespace AlarmRelay

open Json

/-! ## Readers -/

namespace Severity

theorem ofLabel?_iff (text : String) (severity : Severity) :
    ofLabel? text = some severity ↔ text = severity.label := by
  constructor
  · intro found
    have same := List.find?_some found
    simpa using (beq_iff_eq.mp same).symm
  · rintro rfl
    exact ofLabel?_label severity

theorem format_reads : format.read.Reads IsNamed :=
  label_reads label ofLabel? labels ofLabel?_iff

end Severity

theorem word32_reads : Reader.word32.Reads Tree.IsWord32 := word32_iff

theorem word64_reads : Reader.word64.Reads Tree.IsWord64 := word64_iff

theorem not_isText_null (value : String) : ¬ Tree.IsText .null value := by
  intro equal
  cases equal

theorem not_isWord64_null (value : UInt64) : ¬ Tree.IsWord64 .null value := by
  rintro ⟨literal, equal, _⟩
  cases equal

namespace Memo

theorem rule_distinct : (rule.fields.map FieldRule.name).Nodup := by decide

theorem read_iff (tree : Tree) (memo : Memo) :
    read tree = .ok memo ↔ ∃ members, rule.Presents tree members ∧
      RecordedIn members memo := by
  have body := fun members value => required_iff Reader.text Tree.IsText
    text_reads "body" members value
  have author := fun members value => required_iff Reader.text Tree.IsText
    text_reads "author" members value
  have updatedAt := fun members value => required_iff Reader.word64
    Tree.IsWord64 word64_reads "updated_at" members value
  simp only [read, bind_ok, rule.members_iff _ _ rule_distinct]
  constructor
  · rintro ⟨members, ⟨presents, admits⟩, bodyText, one, authorText, two, time,
      three, result⟩
    cases result
    simp only [RecordRule.Admits, rule, List.forall_mem_cons] at admits
    exact ⟨members, presents, (body members _).mp ⟨admits.1, one⟩,
      (author members _).mp ⟨admits.2.1, two⟩,
      (updatedAt members _).mp ⟨admits.2.2.1, three⟩⟩
  · rintro ⟨members, presents, recorded⟩
    obtain ⟨bodyAdmits, one⟩ := (body members _).mpr recorded.body
    obtain ⟨authorAdmits, two⟩ := (author members _).mpr recorded.author
    obtain ⟨timeAdmits, three⟩ := (updatedAt members _).mpr recorded.updatedAt
    refine ⟨members, ⟨presents, ?_⟩, _, one, _, two, _, three, rfl⟩
    simp only [RecordRule.Admits, rule, List.forall_mem_cons]
    exact ⟨bodyAdmits, authorAdmits, timeAdmits,
      fun _ member => absurd member List.not_mem_nil⟩

theorem read_reads : read.Reads IsWritten := by
  intro tree memo
  exact (read_iff tree memo).trans
    (rule.isRecord_iff requiredNames _ tree rfl).symm

theorem not_isWritten_null (memo : Memo) : ¬ IsWritten .null memo := by
  rintro (⟨_, equal, _⟩ | ⟨_, equal, _⟩) <;> cases equal

end Memo

namespace Alarm

theorem rule_distinct : (rule.fields.map FieldRule.name).Nodup := by decide

theorem read_iff (tree : Tree) (alarm : Alarm) :
    read tree = .ok alarm ↔ ∃ members, rule.Presents tree members ∧
      RecordedIn members alarm := by
  have word32 := fun name members value => required_iff Reader.word32
    Tree.IsWord32 word32_reads name members value
  have word64 := fun name members value => required_iff Reader.word64
    Tree.IsWord64 word64_reads name members value
  have text := fun name members value => required_iff Reader.text
    Tree.IsText text_reads name members value
  have severity := fun members value => required_iff Severity.format.read
    Severity.IsNamed Severity.format_reads "severity" members value
  have someText := fun name members value => optional_iff Reader.text
    Tree.IsText text_reads name members value not_isText_null
  have someWord := fun name members value => optional_iff Reader.word64
    Tree.IsWord64 word64_reads name members value not_isWord64_null
  have someMemo := fun name members value => optional_iff Memo.read
    Memo.IsWritten Memo.read_reads name members value Memo.not_isWritten_null
  simp only [read, bind_ok, rule.members_iff _ _ rule_distinct]
  constructor
  · rintro ⟨members, ⟨presents, admits⟩, id, one, reductionKey, two, uei, three,
      level, four, description, five, counter, six, first, seven, last, eight,
      ackUser, nine, ackTime, ten, sticky, eleven, shared, twelve, result⟩
    cases result
    simp only [RecordRule.Admits, rule, List.forall_mem_cons] at admits
    obtain ⟨a1, a2, a3, a4, a5, a6, a7, a8, a9, a10, a11, a12, _⟩ := admits
    exact ⟨members, presents,
      { id := (word32 _ _ _).mp ⟨a1, one⟩
        reductionKey := (text _ _ _).mp ⟨a2, two⟩
        uei := (text _ _ _).mp ⟨a3, three⟩
        severity := (severity _ _).mp ⟨a4, four⟩
        description := (someText _ _ _).mp ⟨a5, five⟩
        counter := (word32 _ _ _).mp ⟨a6, six⟩
        firstEventTime := (word64 _ _ _).mp ⟨a7, seven⟩
        lastEventTime := (word64 _ _ _).mp ⟨a8, eight⟩
        ackUser := (someText _ _ _).mp ⟨a9, nine⟩
        ackTime := (someWord _ _ _).mp ⟨a10, ten⟩
        stickyMemo := (someMemo _ _ _).mp ⟨a11, eleven⟩
        reductionKeyMemo := (someMemo _ _ _).mp ⟨a12, twelve⟩ }⟩
  · rintro ⟨members, presents, recorded⟩
    obtain ⟨a1, one⟩ := (word32 _ _ _).mpr recorded.id
    obtain ⟨a2, two⟩ := (text _ _ _).mpr recorded.reductionKey
    obtain ⟨a3, three⟩ := (text _ _ _).mpr recorded.uei
    obtain ⟨a4, four⟩ := (severity _ _).mpr recorded.severity
    obtain ⟨a5, five⟩ := (someText _ _ _).mpr recorded.description
    obtain ⟨a6, six⟩ := (word32 _ _ _).mpr recorded.counter
    obtain ⟨a7, seven⟩ := (word64 _ _ _).mpr recorded.firstEventTime
    obtain ⟨a8, eight⟩ := (word64 _ _ _).mpr recorded.lastEventTime
    obtain ⟨a9, nine⟩ := (someText _ _ _).mpr recorded.ackUser
    obtain ⟨a10, ten⟩ := (someWord _ _ _).mpr recorded.ackTime
    obtain ⟨a11, eleven⟩ := (someMemo _ _ _).mpr recorded.stickyMemo
    obtain ⟨a12, twelve⟩ := (someMemo _ _ _).mpr recorded.reductionKeyMemo
    refine ⟨members, ⟨presents, ?_⟩, _, one, _, two, _, three, _, four, _, five,
      _, six, _, seven, _, eight, _, nine, _, ten, _, eleven, _, twelve, rfl⟩
    simp only [RecordRule.Admits, rule, List.forall_mem_cons]
    exact ⟨a1, a2, a3, a4, a5, a6, a7, a8, a9, a10, a11, a12,
      fun _ member => absurd member List.not_mem_nil⟩

theorem read_reads : read.Reads IsWritten := by
  intro tree alarm
  exact (read_iff tree alarm).trans
    (rule.isRecord_iff fieldNames _ tree rfl).symm

end Alarm

/-! ## Fields -/

namespace Json.Members

variable {α : Type} (means : Tree → α → Prop) (members : Members)
  (name : String)

theorem hasOne_iff :
    members.HasOne means name ↔ ∃ value, members.Gives means name value :=
  ⟨fun ⟨tree, once, value, fits⟩ => ⟨value, tree, once, fits⟩,
    fun ⟨value, tree, once, fits⟩ => ⟨tree, once, value, fits⟩⟩

theorem hasAtMostOne_iff :
    members.HasAtMostOne means name ↔
      ∃ value, members.MayGive means name value := by
  constructor
  · rintro (missing | ⟨tree, once, rfl | ⟨value, fits⟩⟩)
    · exact ⟨none, Or.inl missing⟩
    · exact ⟨none, Or.inr once⟩
    · exact ⟨some value, tree, once, fits⟩
  · rintro ⟨none | value, gives⟩
    · exact gives.imp id fun once => ⟨.null, once, Or.inl rfl⟩
    · obtain ⟨tree, once, fits⟩ := gives
      exact Or.inr ⟨tree, once, Or.inr ⟨value, fits⟩⟩

variable (other : Members) (value : α)

theorem gives_congr (same : members.given name = other.given name)
    (gives : members.Gives means name value) :
    other.Gives means name value := by
  rwa [Gives, same] at gives

theorem mayGive_congr (value : Option α)
    (silent : ∀ value, ¬ means .null value)
    (same : members.given name = other.given name ∨
      members.Lacks name ∧ other.Lacks name)
    (gives : members.MayGive means name value) :
    other.MayGive means name value := by
  cases value with
  | none =>
      rcases same with same | ⟨_, lacks⟩
      · have lacks : members.Lacks name := gives
        rwa [Lacks, same] at lacks
      · exact lacks
  | some value =>
      rcases same with same | ⟨lacks, _⟩
      · exact gives_congr means members name other value same gives
      · obtain ⟨tree, once, fits⟩ := gives
        rcases lacks with missing | nothing
        · rw [missing] at once
          cases once
        · rw [nothing] at once
          cases once
          exact absurd fits (silent value)

theorem agree_symm (required optional : List String) (first second : Members)
    (agree : Agree required optional first second) :
    Agree required optional second first where
  required := fun name member => (agree.required name member).symm
  optional := fun name member =>
    (agree.optional name member).imp Eq.symm And.symm

end Json.Members

namespace Memo

theorem acceptable_iff (members : Members) :
    Acceptable members ↔ ∃ memo, RecordedIn members memo := by
  constructor
  · intro accepts
    obtain ⟨body, one⟩ := (members.hasOne_iff _ _).mp accepts.body
    obtain ⟨author, two⟩ := (members.hasOne_iff _ _).mp accepts.author
    obtain ⟨updatedAt, three⟩ := (members.hasOne_iff _ _).mp accepts.updatedAt
    exact ⟨⟨body, author, updatedAt⟩, one, two, three⟩
  · rintro ⟨memo, recorded⟩
    exact
      { body := (members.hasOne_iff _ _).mpr ⟨_, recorded.body⟩
        author := (members.hasOne_iff _ _).mpr ⟨_, recorded.author⟩
        updatedAt := (members.hasOne_iff _ _).mpr ⟨_, recorded.updatedAt⟩ }

theorem recordedIn_agree (first second : Members) (memo : Memo)
    (agree : first.Agree requiredNames [] second)
    (recorded : RecordedIn first memo) : RecordedIn second memo where
  body := first.gives_congr _ _ _ _ (agree.required _ (by decide)) recorded.body
  author :=
    first.gives_congr _ _ _ _ (agree.required _ (by decide)) recorded.author
  updatedAt :=
    first.gives_congr _ _ _ _ (agree.required _ (by decide)) recorded.updatedAt

end Memo

namespace Alarm

theorem acceptable_iff (members : Members) :
    Acceptable members ↔ ∃ alarm, RecordedIn members alarm := by
  constructor
  · intro accepts
    obtain ⟨id, one⟩ := (members.hasOne_iff _ _).mp accepts.id
    obtain ⟨reductionKey, two⟩ :=
      (members.hasOne_iff _ _).mp accepts.reductionKey
    obtain ⟨uei, three⟩ := (members.hasOne_iff _ _).mp accepts.uei
    obtain ⟨severity, four⟩ := (members.hasOne_iff _ _).mp accepts.severity
    obtain ⟨description, five⟩ :=
      (members.hasAtMostOne_iff _ _).mp accepts.description
    obtain ⟨counter, six⟩ := (members.hasOne_iff _ _).mp accepts.counter
    obtain ⟨first, seven⟩ := (members.hasOne_iff _ _).mp accepts.firstEventTime
    obtain ⟨last, eight⟩ := (members.hasOne_iff _ _).mp accepts.lastEventTime
    obtain ⟨ackUser, nine⟩ := (members.hasAtMostOne_iff _ _).mp accepts.ackUser
    obtain ⟨ackTime, ten⟩ := (members.hasAtMostOne_iff _ _).mp accepts.ackTime
    obtain ⟨sticky, eleven⟩ :=
      (members.hasAtMostOne_iff _ _).mp accepts.stickyMemo
    obtain ⟨shared, twelve⟩ :=
      (members.hasAtMostOne_iff _ _).mp accepts.reductionKeyMemo
    exact ⟨⟨id, reductionKey, uei, severity, description, counter, first, last,
        ackUser, ackTime, sticky, shared⟩,
      one, two, three, four, five, six, seven, eight, nine, ten, eleven, twelve⟩
  · rintro ⟨alarm, recorded⟩
    exact
      { id := (members.hasOne_iff _ _).mpr ⟨_, recorded.id⟩
        reductionKey := (members.hasOne_iff _ _).mpr ⟨_, recorded.reductionKey⟩
        uei := (members.hasOne_iff _ _).mpr ⟨_, recorded.uei⟩
        severity := (members.hasOne_iff _ _).mpr ⟨_, recorded.severity⟩
        description :=
          (members.hasAtMostOne_iff _ _).mpr ⟨_, recorded.description⟩
        counter := (members.hasOne_iff _ _).mpr ⟨_, recorded.counter⟩
        firstEventTime :=
          (members.hasOne_iff _ _).mpr ⟨_, recorded.firstEventTime⟩
        lastEventTime := (members.hasOne_iff _ _).mpr ⟨_, recorded.lastEventTime⟩
        ackUser := (members.hasAtMostOne_iff _ _).mpr ⟨_, recorded.ackUser⟩
        ackTime := (members.hasAtMostOne_iff _ _).mpr ⟨_, recorded.ackTime⟩
        stickyMemo := (members.hasAtMostOne_iff _ _).mpr ⟨_, recorded.stickyMemo⟩
        reductionKeyMemo :=
          (members.hasAtMostOne_iff _ _).mpr ⟨_, recorded.reductionKeyMemo⟩ }

theorem recordedIn_agree (first second : Members) (alarm : Alarm)
    (agree : first.Agree requiredNames optionalNames second)
    (recorded : RecordedIn first alarm) : RecordedIn second alarm := by
  have required := fun {α : Type} (means : Tree → α → Prop) name value member =>
    first.gives_congr means name second value (agree.required name member)
  have optional := fun {α : Type} (means : Tree → α → Prop) name value silent
      member => first.mayGive_congr means name second value silent
        (agree.optional name member)
  exact
    { id := required _ _ _ (by decide) recorded.id
      reductionKey := required _ _ _ (by decide) recorded.reductionKey
      uei := required _ _ _ (by decide) recorded.uei
      severity := required _ _ _ (by decide) recorded.severity
      description :=
        optional _ _ _ not_isText_null (by decide) recorded.description
      counter := required _ _ _ (by decide) recorded.counter
      firstEventTime := required _ _ _ (by decide) recorded.firstEventTime
      lastEventTime := required _ _ _ (by decide) recorded.lastEventTime
      ackUser := optional _ _ _ not_isText_null (by decide) recorded.ackUser
      ackTime := optional _ _ _ not_isWord64_null (by decide) recorded.ackTime
      stickyMemo :=
        optional _ _ _ Memo.not_isWritten_null (by decide) recorded.stickyMemo
      reductionKeyMemo := optional _ _ _ Memo.not_isWritten_null (by decide)
        recorded.reductionKeyMemo }

end Alarm

/-! ## Texts -/

namespace Json.Tree

theorem ofMembers_inj (first second : Members)
    (same : ofMembers first = .ofMembers second) : first = second := by
  have named := congrArg (fun
    | .object members _ => RecordRule.named members
    | _ => []) same
  simpa [ofMembers, RecordRule.named_map] using named

theorem isObject_ofMembers (holds : Members → Prop) (members : Members) :
    (ofMembers members).IsObject holds ↔ holds members := by
  constructor
  · rintro ⟨other, same, all⟩
    rwa [ofMembers_inj _ _ same]
  · exact fun all => ⟨members, rfl, all⟩

/-- A member whose name is no string keeps an object from being any record. -/
theorem isObject_named (holds : Members → Prop)
    (members : List (Option String × Tree)) (item : Tree)
    (unnamed : (none, item) ∈ members) :
    ¬ (object members true).IsObject holds := by
  rintro ⟨named, same, _⟩
  cases same
  obtain ⟨member, _, equal⟩ := List.mem_map.mp unnamed
  cases equal

theorem isObject_exists {α : Type} (accepts : Members → Prop)
    (holds : α → Members → Prop) (tree : Tree)
    (same : ∀ members, accepts members ↔ ∃ value, holds value members) :
    tree.IsObject accepts ↔ ∃ value, tree.IsObject (holds value) := by
  constructor
  · rintro ⟨members, equal, accepted⟩
    obtain ⟨value, all⟩ := (same members).mp accepted
    exact ⟨value, members, equal, all⟩
  · rintro ⟨value, members, equal, all⟩
    exact ⟨members, equal, (same members).mpr ⟨value, all⟩⟩

theorem isRecord_object (names : List String) (holds : Members → Prop)
    (members : List (Option String × Tree)) :
    (object members true).IsRecord names holds ↔
      (object members true).IsObject holds := by
  constructor
  · rintro (object | ⟨items, same, _⟩)
    · exact object
    · cases same
  · exact Or.inl

theorem isRecord_array (names : List String) (holds : Members → Prop)
    (items : List Tree) (length : items.length = names.length) :
    (array items true).IsRecord names holds ↔ holds (names.zip items) := by
  constructor
  · rintro (⟨other, same, _⟩ | ⟨others, same, _, all⟩)
    · cases same
    · cases same
      exact all
  · exact fun all => Or.inr ⟨items, rfl, length, all⟩

end Json.Tree

theorem Format.decode_written {α : Type} (format : Format α)
    (means : Tree → α → Prop) (reads : format.read.Reads means) (tree : Tree)
    (text : String) (written : tree.WrittenAs text) (value : α) :
    format.decode text = .ok value ↔ means tree value := by
  rw [← reads tree value, Format.decode, Reader.run, tree.parse_written text written]
  simp only [bind_ok, if_true]
  exact ⟨fun ⟨_, read, same⟩ => by rw [read, same], fun read => ⟨value, read, rfl⟩⟩

section

variable (members : List (Option String × Tree)) (text : String)
  (written : (Tree.object members true).WrittenAs text)

include written

theorem Memo.decode_object (memo : Memo) :
    Memo.format.decode text = .ok memo ↔
      (Tree.object members true).IsObject memo.RecordedIn :=
  (Memo.format.decode_written _ Memo.read_reads _ text written memo).trans
    (Tree.isRecord_object _ _ members)

theorem Memo.decodes_object :
    (∃ memo, Memo.format.decode text = .ok memo) ↔
      (Tree.object members true).IsObject Memo.Acceptable := by
  rw [Tree.isObject_exists _ _ _ Memo.acceptable_iff]
  exact exists_congr (Memo.decode_object members text written)

theorem Alarm.decode_object (alarm : Alarm) :
    Alarm.format.decode text = .ok alarm ↔
      (Tree.object members true).IsObject alarm.RecordedIn :=
  (Alarm.format.decode_written _ Alarm.read_reads _ text written alarm).trans
    (Tree.isRecord_object _ _ members)

theorem Alarm.decodes_object :
    (∃ alarm, Alarm.format.decode text = .ok alarm) ↔
      (Tree.object members true).IsObject Alarm.Acceptable := by
  rw [Tree.isObject_exists _ _ _ Alarm.acceptable_iff]
  exact exists_congr (Alarm.decode_object members text written)

end

theorem Memo.decode_members (members : Members) (text : String)
    (written : (Tree.ofMembers members).WrittenAs text) (memo : Memo) :
    Memo.format.decode text = .ok memo ↔ memo.RecordedIn members :=
  (Memo.decode_object _ text written memo).trans
    (Tree.isObject_ofMembers _ members)

theorem Alarm.decode_members (members : Members) (text : String)
    (written : (Tree.ofMembers members).WrittenAs text) (alarm : Alarm) :
    Alarm.format.decode text = .ok alarm ↔ alarm.RecordedIn members :=
  (Alarm.decode_object _ text written alarm).trans
    (Tree.isObject_ofMembers _ members)

theorem Alarm.decode_array (items : List Tree) (text : String)
    (written : (Tree.array items true).WrittenAs text)
    (length : items.length = Alarm.fieldNames.length) (alarm : Alarm) :
    Alarm.format.decode text = .ok alarm ↔
      alarm.RecordedIn (Alarm.fieldNames.zip items) :=
  (Alarm.format.decode_written _ Alarm.read_reads _ text written alarm).trans
    (Tree.isRecord_array _ _ items length)

end AlarmRelay
