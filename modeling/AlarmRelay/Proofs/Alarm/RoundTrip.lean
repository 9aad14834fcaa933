import AlarmRelay.Proofs.Alarm.Decoding
import AlarmRelay.Proofs.Json.Writing

/-!
# What is written is read back

A value that is written and read again is the same value, in every format.  So a
text that decodes at all has one normal form, that of the value it decodes to.
-/

set_option autoImplicit false

namespace AlarmRelay

open Json

/-- Writing and reading undo each other. -/
structure Format.RoundTrips {α : Type} (format : Format α) : Prop where
  inverse : ∀ value, format.decode (format.encode value) = .ok value
  /-- Whatever decodes, its value is written as one text that decodes to it. -/
  stable : ∀ text value, format.decode text = .ok value →
    ∃ again, format.decode (format.encode value) = .ok again ∧ again = value ∧
      format.encode again = format.encode value

theorem Format.roundTrips_of_inverse {α : Type} (format : Format α)
    (inverse : ∀ value, format.decode (format.encode value) = .ok value) :
    format.RoundTrips where
  inverse := inverse
  stable := fun _ value _ => ⟨value, inverse value, rfl, rfl⟩

/-- A format whose values are written as trees that stand for them. -/
theorem Format.roundTrips {α : Type} (format : Format α)
    (means : Tree → α → Prop) (reads : format.read.Reads means)
    (stands : ∀ value, means (format.write value).tree value) :
    format.RoundTrips := by
  apply format.roundTrips_of_inverse
  intro value
  have written : (format.write value).tree.WrittenAs (format.encode value) := by
    rw [Tree.WrittenAs, Format.encode, Value.render, String.toList_ofList]
    exact (format.write value).written_tree
  exact (format.decode_written means reads _ _ written value).mpr (stands value)

namespace Json

theorem number_stands (value : Nat) :
    (Value.number value).tree.IsNatural value :=
  ⟨_, rfl, writtenNumber_counts value⟩

/-- An optional value is written as what it stands for. -/
theorem optional_mayGive {α : Type} (means : Tree → α → Prop)
    (write : α → Value) (stands : ∀ value, means (write value).tree value)
    (members : Members) (name : String) (value : Option α)
    (given : members.given name = [(Value.optional write value).tree]) :
    members.MayGive means name value := by
  cases value with
  | none => exact Or.inr given
  | some value => exact ⟨_, given, stands value⟩

end Json

theorem Memo.write_stands (memo : Memo) :
    Memo.IsWritten (Memo.write memo).tree memo :=
  Or.inl ⟨[("body", .text (some memo.body)),
      ("author", .text (some memo.author)),
      ("updated_at", (Value.number memo.updatedAt.toNat).tree)], rfl,
    ⟨_, rfl, rfl⟩, ⟨_, rfl, rfl⟩, ⟨_, rfl, number_stands _⟩⟩

theorem Alarm.write_stands (alarm : Alarm) :
    Alarm.IsWritten (Alarm.write alarm).tree alarm := by
  have time : ∀ value : Timestamp,
      Tree.IsWord64 (Value.number value.toNat).tree value :=
    fun value => number_stands value.toNat
  refine Or.inl ⟨[("id", (Value.number alarm.id.toNat).tree),
    ("reduction_key", .text (some alarm.reductionKey)),
    ("uei", .text (some alarm.uei)),
    ("severity", .text (some alarm.severity.label)),
    ("description", (Value.optional .text alarm.description).tree),
    ("counter", (Value.number alarm.counter.toNat).tree),
    ("first_event_time", (Value.number alarm.firstEventTime.toNat).tree),
    ("last_event_time", (Value.number alarm.lastEventTime.toNat).tree),
    ("ack_user", (Value.optional .text alarm.ackUser).tree),
    ("ack_time",
      (Value.optional (fun time => .number time.toNat) alarm.ackTime).tree),
    ("sticky_memo", (Value.optional Memo.write alarm.stickyMemo).tree),
    ("reduction_key_memo",
      (Value.optional Memo.write alarm.reductionKeyMemo).tree)], rfl, ?_⟩
  exact
    { id := ⟨_, rfl, number_stands _⟩
      reductionKey := ⟨_, rfl, rfl⟩
      uei := ⟨_, rfl, rfl⟩
      severity := ⟨_, rfl, Or.inl rfl⟩
      description := optional_mayGive _ _ (fun _ => rfl) _ _ _ rfl
      counter := ⟨_, rfl, number_stands _⟩
      firstEventTime := ⟨_, rfl, number_stands _⟩
      lastEventTime := ⟨_, rfl, number_stands _⟩
      ackUser := optional_mayGive _ _ (fun _ => rfl) _ _ _ rfl
      ackTime := optional_mayGive _ _ time _ _ _ rfl
      stickyMemo := optional_mayGive _ _ Memo.write_stands _ _ _ rfl
      reductionKeyMemo := optional_mayGive _ _ Memo.write_stands _ _ _ rfl }

/-- Alarms, memos, severities and alarm ids are read back as they were written. -/
theorem formats_round_trip :
    Alarm.format.RoundTrips ∧ Memo.format.RoundTrips ∧
      Severity.format.RoundTrips ∧ alarmIdFormat.RoundTrips :=
  ⟨Alarm.format.roundTrips _ Alarm.read_reads Alarm.write_stands,
    Memo.format.roundTrips _ Memo.read_reads Memo.write_stands,
    Severity.format.roundTrips _ Severity.format_reads fun _ => Or.inl rfl,
    alarmIdFormat.roundTrips _ word32_reads fun id => number_stands id.toNat⟩

end AlarmRelay
