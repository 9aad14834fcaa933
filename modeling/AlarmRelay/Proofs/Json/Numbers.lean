import AlarmRelay.Json.Meaning

/-!
# Reading numbers

A literal without sign, fraction and exponent is read as the number that its digits
write, if that fits 64 bits, and no other literal is read as a natural number.
-/

set_option autoImplicit false

namespace AlarmRelay.Json

theorem map_ok {ε α β : Type} (result : Except ε α) (f : α → β) (value : β) :
    f <$> result = .ok value ↔ ∃ inner, result = .ok inner ∧ f inner = value := by
  cases result with
  | error cause =>
      refine ⟨fun mapped => ?_, fun ⟨_, read, _⟩ => ?_⟩
      · cases mapped
      · cases read
  | ok inner =>
      refine ⟨fun mapped => ?_, fun ⟨_, read, mapped⟩ => ?_⟩
      · cases mapped
        exact ⟨inner, rfl, rfl⟩
      · cases read
        rw [← mapped]
        rfl

/-! ## Digits -/

/-- The number that digits write behind a significand. -/
def extend (significand : Nat) (digits : List Char) : Nat :=
  digits.foldl (fun sum c => sum * 10 + Text.digitValue c) significand

theorem le_extend (significand : Nat) (digits : List Char) :
    significand ≤ extend significand digits := by
  induction digits generalizing significand with
  | nil => exact Nat.le_refl _
  | cons digit rest ih =>
      have grown : significand ≤ significand * 10 + Text.digitValue digit := by
        omega
      exact Nat.le_trans grown (ih _)

/-- All digits are gathered exactly if what they write fits. -/
theorem gather_fits (significand : Nat) (digits : List Char)
    (fits : extend significand digits < Nat.pow 2 64) :
    gather significand digits = (extend significand digits, []) := by
  induction digits generalizing significand with
  | nil => rfl
  | cons digit rest ih =>
      have here : significand * 10 + Text.digitValue digit < Nat.pow 2 64 :=
        Nat.lt_of_le_of_lt (le_extend _ rest) fits
      rw [gather]
      simp only [if_pos here]
      exact ih _ fits

theorem gather_complete (significand value : Nat) (digits : List Char)
    (small : significand < Nat.pow 2 64)
    (gathered : gather significand digits = (value, [])) :
    value = extend significand digits ∧ value < Nat.pow 2 64 := by
  induction digits generalizing significand with
  | nil =>
      cases gathered
      exact ⟨rfl, small⟩
  | cons digit rest ih =>
      rw [gather] at gathered
      by_cases here : significand * 10 + Text.digitValue digit < Nat.pow 2 64
      · simp only [if_pos here] at gathered
        exact ih _ here gathered
      · simp only [if_neg here] at gathered
        cases gathered

/-! ## Natural numbers -/

theorem natural_counts (literal : NumberLiteral) (value : Nat)
    (read : literal.value? = some (.natural value)) :
    literal.Counts value ∧ value < Nat.pow 2 64 := by
  unfold NumberLiteral.value? at read
  cases gathered : gather 0 literal.whole with
  | mk whole surplus =>
      simp only [gathered] at read
      split at read
      · cases magnitude : literal.magnitude? <;> simp [magnitude] at read
      · rename_i bare
        simp only [Bool.or_eq_true, not_or, Option.not_isSome_iff_eq_none,
          Bool.not_eq_true', List.isEmpty_eq_false_iff, ne_eq,
          Decidable.not_not] at bare
        obtain ⟨⟨fraction, exponent⟩, rfl⟩ := bare
        obtain ⟨digits, fits⟩ := gather_complete 0 whole literal.whole
          (Nat.pow_pos (by decide)) gathered
        split at read
        · rename_i positive
          cases read
          exact ⟨⟨by simpa using positive, fraction, exponent, digits.symm⟩, fits⟩
        · split at read <;> cases read

theorem counts_natural (literal : NumberLiteral) (value : Nat)
    (counts : literal.Counts value) (fits : value < Nat.pow 2 64) :
    literal.value? = some (.natural value) := by
  have digits : extend 0 literal.whole = value := counts.value
  have gathered := gather_fits 0 literal.whole (by rw [digits]; exact fits)
  rw [digits] at gathered
  simp [NumberLiteral.value?, gathered, counts.positive, counts.whole,
    counts.plain]

/-! ## Words -/

theorem below_iff (limit : Nat) (expected : Expected) (tree : Tree)
    (value : Nat) (bounded : limit ≤ Nat.pow 2 64) :
    Reader.below limit expected tree = .ok value ↔
      tree.IsNatural value ∧ value < limit := by
  constructor
  · intro read
    cases tree with
    | number literal =>
        cases number : literal.value? with
        | none => simp [Reader.below, number] at read
        | some number' =>
            cases number' with
            | natural other =>
                simp only [Reader.below, number] at read
                split at read
                · cases read
                  exact ⟨⟨literal, rfl, (natural_counts literal _ number).1⟩, ‹_›⟩
                · cases read
            | _ => simp [Reader.below, number] at read
    | text known => cases known <;> cases read
    | _ => cases read
  · rintro ⟨⟨literal, rfl, counts⟩, small⟩
    have natural := counts_natural literal value counts
      (Nat.lt_of_lt_of_le small bounded)
    simp [Reader.below, natural, small]

theorem word32_iff (tree : Tree) (value : UInt32) :
    Reader.word32 tree = .ok value ↔ tree.IsWord32 value := by
  have natural := below_iff UInt32.size .word32 tree
  simp only [Reader.word32, map_ok, natural _ (by decide)]
  constructor
  · rintro ⟨word, ⟨means, small⟩, rfl⟩
    rw [Tree.IsWord32, UInt32.toNat_ofNat_of_lt' small]
    exact means
  · intro means
    exact ⟨_, ⟨means, value.toNat_lt⟩, UInt32.ofNat_toNat⟩

theorem word64_iff (tree : Tree) (value : UInt64) :
    Reader.word64 tree = .ok value ↔ tree.IsWord64 value := by
  have natural := below_iff UInt64.size .word64 tree
  simp only [Reader.word64, map_ok, natural _ (by decide)]
  constructor
  · rintro ⟨word, ⟨means, small⟩, rfl⟩
    rw [Tree.IsWord64, UInt64.toNat_ofNat_of_lt' small]
    exact means
  · intro means
    exact ⟨_, ⟨means, value.toNat_lt⟩, UInt64.ofNat_toNat⟩

end AlarmRelay.Json
