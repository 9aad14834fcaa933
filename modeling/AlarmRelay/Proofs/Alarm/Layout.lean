import AlarmRelay.Proofs.Alarm.Decoding

/-!
# The layout of a record plays no part

What a record decodes to, and whether it does, is said by its known fields, if the
names of all its members are strings.  Two texts that give them alike decode alike,
and so does the array of their values.
-/

set_option autoImplicit false

namespace AlarmRelay

open Json
open String (toList_ofList)

/-- Alarms and memos decode by their fields, however they are laid out, from objects
whose names are strings, and from no others. -/
theorem records_decode_by_fields :
    (∀ members text, (Tree.object members true).WrittenAs text →
      ((∃ alarm, Alarm.format.decode text = .ok alarm) ↔
        (Tree.object members true).IsObject Alarm.Acceptable) ∧
      (∀ alarm, Alarm.format.decode text = .ok alarm ↔
        (Tree.object members true).IsObject alarm.RecordedIn) ∧
      ((∃ memo, Memo.format.decode text = .ok memo) ↔
        (Tree.object members true).IsObject Memo.Acceptable) ∧
      (∀ memo, Memo.format.decode text = .ok memo ↔
        (Tree.object members true).IsObject memo.RecordedIn)) ∧
    (∀ first second text other, (Tree.ofMembers first).WrittenAs text →
      (Tree.ofMembers second).WrittenAs other →
        (first.Agree Alarm.requiredNames Alarm.optionalNames second →
          ∀ alarm, Alarm.format.decode text = .ok alarm ↔
            Alarm.format.decode other = .ok alarm) ∧
        (first.Agree Memo.requiredNames [] second →
          ∀ memo, Memo.format.decode text = .ok memo ↔
            Memo.format.decode other = .ok memo)) ∧
    (∀ items text other, (Tree.array items true).WrittenAs text →
      items.length = Alarm.fieldNames.length →
      (Tree.ofMembers (Alarm.fieldNames.zip items)).WrittenAs other →
        ∀ alarm, Alarm.format.decode text = .ok alarm ↔
          Alarm.format.decode other = .ok alarm) := by
  refine ⟨?_, ?_, ?_⟩
  · intro members text written
    exact ⟨Alarm.decodes_object members text written,
      Alarm.decode_object members text written,
      Memo.decodes_object members text written,
      Memo.decode_object members text written⟩
  · intro first second text other written otherWritten
    refine ⟨fun agree alarm => ?_, fun agree memo => ?_⟩
    · rw [Alarm.decode_members first text written,
        Alarm.decode_members second other otherWritten]
      exact ⟨Alarm.recordedIn_agree first second alarm agree,
        Alarm.recordedIn_agree second first alarm
          (Members.agree_symm _ _ _ _ agree)⟩
    · rw [Memo.decode_members first text written,
        Memo.decode_members second other otherWritten]
      exact ⟨Memo.recordedIn_agree first second memo agree,
        Memo.recordedIn_agree second first memo
          (Members.agree_symm _ _ _ _ agree)⟩
  · intro items text other written length otherWritten alarm
    rw [Alarm.decode_array items text written length,
      Alarm.decode_members _ other otherWritten]

/-- The letters of a text that is put together from two. -/
theorem letters_append {first second : String} {front back : List Char}
    (one : first.toList = front) (other : second.toList = back) :
    (first ++ second).toList = front ++ back := by
  rw [String.toList_append, one, other]

/-- An alarm laid out loosely: unknown members among the known ones, blanks, an
escaped letter, a severity that is the name of a member, and a memo as an array. -/
def looseText : String :=
  "\x7b \"x\":[\x7b\"id\":2\x7d,-1.5e3],\"uei\":\"u\" ,\n\"id\": 7,\"severity\":\x7b\"major\":null\x7d,"
    ++ "\"reduction_key\":\"k\\u0041\",\"counter\":1,\"last_event_time\":2,"
    ++ "\"first_event_time\":1,\"ack_user\":null,\"sticky_memo\":[\"b\",\"a\",3]\x7d"

/-- A literal of bare digits. -/
def bareNumber (digits : List Char) : Tree :=
  .number ⟨false, digits, none, none⟩

theorem bareNumber_isNatural (digits : List Char) (value : Nat)
    (same : Text.valueIn 10 digits = value) :
    (bareNumber digits).IsNatural value :=
  ⟨_, rfl, rfl, rfl, rfl, same⟩

def looseMembers : Members :=
  [("x", .array [.ofMembers [("id", bareNumber ['2'])],
      .number ⟨true, ['1'], some ['5'], some (false, ['3'])⟩] true),
    ("uei", .text (some "u")), ("id", bareNumber ['7']),
    ("severity", .ofMembers [("major", .null)]),
    ("reduction_key", .text (some "kA")), ("counter", bareNumber ['1']),
    ("last_event_time", bareNumber ['2']),
    ("first_event_time", bareNumber ['1']), ("ack_user", .null),
    ("sticky_memo", .array [.text (some "b"), .text (some "a"),
      bareNumber ['3']] true)]

theorem loose_written : (Tree.ofMembers looseMembers).WrittenAs looseText :=
  Tree.writtenAs_letters _ _ _
    (letters_append (letters_append toList_ofList toList_ofList) toList_ofList)
    (by decide +kernel) (by decide)

/-- The values of the same fields, in order. -/
def looseItems : List Tree :=
  [bareNumber ['7'], .text (some "kA"), .text (some "u"),
    .ofMembers [("major", .null)], .null, bareNumber ['1'], bareNumber ['1'],
    bareNumber ['2'], .null, .null,
    .array [.text (some "b"), .text (some "a"), bareNumber ['3']] true, .null]

/-- The same alarm as an array. -/
def listedText : String :=
  "[7,\"kA\",\"u\",\x7b\"major\":null\x7d,null,1,1,2,null,null,[\"b\",\"a\",3],null]"

/-- The same alarm as an object of all its fields in order. -/
def tidyText : String :=
  "\x7b\"id\":7,\"reduction_key\":\"kA\",\"uei\":\"u\","
    ++ "\"severity\":\x7b\"major\":null\x7d,\"description\":null,\"counter\":1,"
    ++ "\"first_event_time\":1,\"last_event_time\":2,\"ack_user\":null,"
    ++ "\"ack_time\":null,\"sticky_memo\":[\"b\",\"a\",3],\"reduction_key_memo\":null\x7d"

theorem listed_written : (Tree.array looseItems true).WrittenAs listedText :=
  Tree.writtenAs_letters _ _ _ toList_ofList (by decide +kernel) (by decide)

theorem tidy_written :
    (Tree.ofMembers (Alarm.fieldNames.zip looseItems)).WrittenAs tidyText :=
  Tree.writtenAs_letters _ _ _
    (letters_append
      (letters_append (letters_append toList_ofList toList_ofList) toList_ofList)
      toList_ofList)
    (by decide +kernel) (by decide)

theorem loose_agree :
    Members.Agree Alarm.requiredNames Alarm.optionalNames looseMembers
      (Alarm.fieldNames.zip looseItems) where
  required := by
    simp only [Alarm.requiredNames, List.forall_mem_cons]
    refine ⟨rfl, rfl, rfl, rfl, rfl, rfl, rfl, ?_⟩
    exact fun _ member => absurd member List.not_mem_nil
  optional := by
    simp only [Alarm.optionalNames, List.forall_mem_cons]
    refine ⟨Or.inr ⟨Or.inl rfl, Or.inr rfl⟩, Or.inl rfl,
      Or.inr ⟨Or.inl rfl, Or.inr rfl⟩, Or.inl rfl,
      Or.inr ⟨Or.inl rfl, Or.inr rfl⟩, ?_⟩
    exact fun _ member => absurd member List.not_mem_nil

theorem records_decode_by_fields_loose :
    (Tree.ofMembers looseMembers).WrittenAs looseText ∧
      ∃ alarm, alarm = { Alarm.raise 1 7 "u" "kA" .major with
          lastEventTime := 2, stickyMemo := some ⟨"b", "a", 3⟩ } ∧
        Alarm.format.decode looseText = .ok alarm ∧
        Alarm.format.decode tidyText = .ok alarm ∧
        Alarm.format.decode listedText = .ok alarm := by
  have loose : Alarm.format.decode looseText = .ok
      { Alarm.raise 1 7 "u" "kA" .major with
        lastEventTime := 2, stickyMemo := some ⟨"b", "a", 3⟩ } := by
    refine ((records_decode_by_fields.1 _ looseText loose_written).2.1 _).mpr
      ⟨looseMembers, rfl, ?_⟩
    exact
      { id := ⟨bareNumber ['7'], rfl, bareNumber_isNatural _ _ (by decide)⟩
        reductionKey := ⟨_, rfl, rfl⟩
        uei := ⟨_, rfl, rfl⟩
        severity := ⟨_, rfl, Or.inr rfl⟩
        description := Or.inl rfl
        counter := ⟨bareNumber ['1'], rfl, bareNumber_isNatural _ _ (by decide)⟩
        firstEventTime :=
          ⟨bareNumber ['1'], rfl, bareNumber_isNatural _ _ (by decide)⟩
        lastEventTime :=
          ⟨bareNumber ['2'], rfl, bareNumber_isNatural _ _ (by decide)⟩
        ackUser := Or.inr rfl
        ackTime := Or.inl rfl
        stickyMemo := ⟨_, rfl, Or.inr ⟨_, rfl, rfl, ⟨_, rfl, rfl⟩,
          ⟨_, rfl, rfl⟩,
          ⟨bareNumber ['3'], rfl, bareNumber_isNatural _ _ (by decide)⟩⟩⟩
        reductionKeyMemo := Or.inl rfl }
  have tidy := ((records_decode_by_fields.2.1 _ _ looseText tidyText
    loose_written tidy_written).1 loose_agree _).mp loose
  have listed := (records_decode_by_fields.2.2 looseItems listedText tidyText
    listed_written rfl tidy_written _).mpr tidy
  exact ⟨loose_written, _, rfl, loose, tidy, listed⟩

/-! ## Names that are no strings -/

/-- Every field that an alarm has to have. -/
def plainMembers : Members :=
  [("id", bareNumber ['7']), ("reduction_key", .text (some "k")),
    ("uei", .text (some "u")), ("severity", .text (some "major")),
    ("counter", bareNumber ['1']), ("first_event_time", bareNumber ['1']),
    ("last_event_time", bareNumber ['2'])]

/-- The same behind a member whose name is half a surrogate pair. -/
def halfNamedMembers : List (Option String × Tree) :=
  (none, bareNumber ['0']) ::
    plainMembers.map fun member => (some member.1, member.2)

def halfNamedText : String :=
  "\x7b\"\\ud800\":0,\"id\":7,\"reduction_key\":\"k\",\"uei\":\"u\","
    ++ "\"severity\":\"major\",\"counter\":1,\"first_event_time\":1,"
    ++ "\"last_event_time\":2\x7d"

theorem plain_acceptable : Alarm.Acceptable plainMembers where
  id := ⟨bareNumber ['7'], rfl, 7, bareNumber_isNatural _ _ (by decide)⟩
  reductionKey := ⟨_, rfl, "k", rfl⟩
  uei := ⟨_, rfl, "u", rfl⟩
  severity := ⟨_, rfl, .major, Or.inl rfl⟩
  description := Or.inl rfl
  counter := ⟨bareNumber ['1'], rfl, 1, bareNumber_isNatural _ _ (by decide)⟩
  firstEventTime :=
    ⟨bareNumber ['1'], rfl, 1, bareNumber_isNatural _ _ (by decide)⟩
  lastEventTime :=
    ⟨bareNumber ['2'], rfl, 2, bareNumber_isNatural _ _ (by decide)⟩
  ackUser := Or.inl rfl
  ackTime := Or.inl rfl
  stickyMemo := Or.inl rfl
  reductionKeyMemo := Or.inl rfl

theorem halfNamed_written :
    (Tree.object halfNamedMembers true).WrittenAs halfNamedText :=
  Tree.writtenAs_letters _ _ _
    (letters_append (letters_append toList_ofList toList_ofList) toList_ofList)
    (by decide +kernel) (by decide)

/-- An object whose fields are all there, and all acceptable, is no alarm if another
of its members has a name that is no string. -/
theorem half_named_object_refused :
    (Tree.object halfNamedMembers true).WrittenAs halfNamedText ∧
    Alarm.Acceptable plainMembers ∧
    ∀ alarm, Alarm.format.decode halfNamedText ≠ .ok alarm := by
  refine ⟨halfNamed_written, plain_acceptable, fun alarm decoded => ?_⟩
  have object := (Alarm.decode_object _ _ halfNamed_written alarm).mp decoded
  exact Tree.isObject_named _ _ (bareNumber ['0']) List.mem_cons_self object

end AlarmRelay
