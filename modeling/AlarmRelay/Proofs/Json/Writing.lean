import AlarmRelay.Json.Grammar
import AlarmRelay.Json.Meaning
import AlarmRelay.Json.Value

/-!
# Written values are texts of the grammar

Every value is written as a text of the grammar, for a tree that says the same.  A
string is written piece by piece, and its pieces are put together to the string
again; a number is written in digits that write the number.
-/

set_option autoImplicit false

namespace AlarmRelay.Json

/-! ## Strings -/

/-- The piece as which a character is written. -/
def pieceOf (c : Char) : Piece :=
  if c < ' ' ∧ c ∉ ['\x08', '\x0c', '\n', '\r', '\t'] then .unit c.toNat
  else .char c

theorem hexValue?_hexDigit (value : Nat) (small : value < 16) :
    Text.hexValue? (Text.hexDigit value) = some value := by
  have every : ∀ value < 16,
      Text.hexValue? (Text.hexDigit value) = some value := by decide
  exact every value small

theorem unitValue?_control (value : Nat) (small : value < 256) :
    unitValue? '0' '0' (Text.hexDigit (value / 16))
      (Text.hexDigit (value % 16)) = some value := by
  have zero : Text.hexValue? '0' = some 0 := by decide
  simp only [unitValue?, zero, hexValue?_hexDigit (value / 16) (by omega),
    hexValue?_hexDigit (value % 16) (Nat.mod_lt _ (by decide))]
  exact congrArg some (by omega)

theorem toNat_lt_of_control (c : Char) (control : c < ' ') : c.toNat < 32 := by
  have below : c.val < ' '.val := control
  exact UInt32.lt_iff_toNat_lt.mp below

theorem writtenChar_spelled (c : Char) :
    (pieceOf c).Spelled (writtenChar c) := by
  unfold writtenChar
  split
  · exact .escape '"' '"' rfl
  · exact .escape '\\' '\\' rfl
  · exact .escape 'b' '\x08' rfl
  · exact .escape 'f' '\x0c' rfl
  · exact .escape 'n' '\n' rfl
  · exact .escape 'r' '\r' rfl
  · exact .escape 't' '\t' rfl
  · rename_i quote slash back feed line carriage tab
    split
    · rename_i control
      have piece : pieceOf c = .unit c.toNat := by
        rw [pieceOf, if_pos]
        simp only [List.mem_cons, List.not_mem_nil, or_false, not_or]
        exact ⟨control, back, feed, line, carriage, tab⟩
      rw [piece]
      exact .unit _ _ _ _ _ (unitValue?_control c.toNat
        (Nat.lt_trans (toNat_lt_of_control c control) (by decide)))
    · rename_i visible
      have piece : pieceOf c = .char c := if_neg fun both => visible both.1
      rw [piece]
      exact .plain c (Char.not_lt.mp visible) quote slash

theorem writtenChars_spelled (chars : List Char) :
    Piece.AllSpelled (chars.map pieceOf) (chars.flatMap writtenChar) := by
  induction chars with
  | nil => exact .nil
  | cons c rest ih =>
      rw [List.map_cons, List.flatMap_cons]
      exact .cons _ _ _ _ (writtenChar_spelled c) ih

/-- A unit that is no half of a pair is a character by itself. -/
theorem assemble_unit (value : Nat) (rest : List Piece) (small : value < 0xD800) :
    assemble (.unit value :: rest) =
      (assemble rest).map (Char.ofNat value :: ·) := by
  have high : isHighHalf value = false := by
    simp [isHighHalf]
    omega
  have low : isLowHalf value = false := by
    simp [isLowHalf]
    omega
  cases rest with
  | nil => simp [assemble, high, low]
  | cons piece others =>
      cases piece <;> simp [assemble, high, low]

theorem assemble_pieceOf (chars : List Char) :
    assemble (chars.map pieceOf) = some chars := by
  induction chars with
  | nil => rfl
  | cons c rest ih =>
      rw [List.map_cons]
      by_cases control : c < ' ' ∧ c ∉ ['\x08', '\x0c', '\n', '\r', '\t']
      · have small := toNat_lt_of_control c control.1
        rw [pieceOf, if_pos control, assemble_unit _ _ (by omega), ih,
          Char.ofNat_toNat]
        rfl
      · rw [pieceOf, if_neg control, assemble, ih]
        rfl

theorem writtenText_spelled (text : String) :
    (Token.text (some text)).Spelled (writtenText text) := by
  have spelled := Token.Spelled.text _ _ (writtenChars_spelled text.toList)
  rw [assemble_pieceOf, Option.map_some, String.ofList_toList] at spelled
  exact spelled

/-! ## Numbers -/

theorem digitValue_digit (c : Char) (digit : c.isDigit = true) :
    Text.digitValue c = c.toNat - '0'.toNat := by
  have range : '0' ≤ c ∧ c ≤ '9' := by
    simpa [Char.isDigit, Char.le_def] using digit
  simp [Text.digitValue, Text.hexValue?, range]

theorem valueIn_ofDigitChars (digits : List Char) (start : Nat)
    (all : ∀ c ∈ digits, c.isDigit = true) :
    digits.foldl (fun sum c => sum * 10 + Text.digitValue c) start =
      Nat.ofDigitChars 10 digits start := by
  induction digits generalizing start with
  | nil => rfl
  | cons digit rest ih =>
      obtain ⟨here, others⟩ := List.forall_mem_cons.mp all
      rw [List.foldl_cons, Nat.ofDigitChars_cons, digitValue_digit digit here,
        Nat.mul_comm start 10]
      exact ih _ others

theorem isDigit_toDigits (value : Nat) :
    ∀ c ∈ Nat.toDigits 10 value, c.isDigit = true :=
  fun _ member => Nat.isDigit_of_mem_toDigits (by decide) (by decide) member

/-- Only zero is written with a zero first. -/
theorem toDigits_head (value : Nat)
    (zero : (Nat.toDigits 10 value).head? = some '0') : value = 0 := by
  induction value using Nat.strongRecOn with
  | ind value ih =>
      by_cases small : value < 10
      · rw [Nat.toDigits_of_lt_base small] at zero
        exact Nat.digitChar_eq_zero.mp (Option.some.inj zero)
      · have larger : 10 ≤ value := Nat.not_lt.mp small
        rw [Nat.toDigits_of_base_le (by decide) larger, List.head?_append] at zero
        have first : (Nat.toDigits 10 (value / 10)).head? = some '0' := by
          cases head : (Nat.toDigits 10 (value / 10)).head? with
          | none => exact absurd (List.head?_eq_none_iff.mp head) Nat.toDigits_ne_nil
          | some c =>
              rw [head] at zero
              exact zero
        have nothing := ih (value / 10) (by omega) first
        omega

theorem isWhole_toDigits (value : Nat) : IsWhole (Nat.toDigits 10 value) := by
  refine ⟨⟨Nat.toDigits_ne_nil, isDigit_toDigits value⟩, fun zero => ?_⟩
  rw [toDigits_head value zero]
  rfl

/-- The literal as which a number is written. -/
def writtenNumber (value : Nat) : NumberLiteral :=
  ⟨false, Nat.toDigits 10 value, none, none⟩

theorem writtenNumber_spelled (value : Nat) :
    (writtenNumber value).Spelled (Nat.toDigits 10 value) :=
  ⟨isWhole_toDigits value, [], [], rfl, rfl, by simp [writtenNumber]⟩

theorem writtenNumber_counts (value : Nat) :
    (writtenNumber value).Counts value := by
  refine ⟨rfl, rfl, rfl, ?_⟩
  rw [writtenNumber, Text.valueIn,
    valueIn_ofDigitChars _ _ (isDigit_toDigits value)]
  exact Nat.ofDigitChars_ten_toDigits

/-! ## Values -/

namespace Token

theorem written_blanks (tokens : List Token) (blanks chars : List Char)
    (blank : ∀ c ∈ blanks, isBlank c = true) (written : Written tokens chars) :
    Written tokens (blanks ++ chars) := by
  have both : ∀ more : List Char, (∀ c ∈ more, isBlank c = true) →
      ∀ c ∈ blanks ++ more, isBlank c = true := fun more others c member =>
    (List.mem_append.mp member).elim (blank c) (others c)
  cases written with
  | nil _ others => exact .nil _ (both _ others)
  | cons token tokens more lexeme rest others here onward =>
      have longer := Written.cons token tokens (blanks ++ more) lexeme rest
        (both more others) here onward
      simpa only [List.append_assoc] using longer

theorem written_append (first second : List Token) (left right : List Char)
    (one : Written first left) (other : Written second right) :
    Written (first ++ second) (left ++ right) := by
  induction one with
  | nil blanks blank => exact written_blanks second blanks right blank other
  | cons token tokens blanks lexeme more blank here onward ih =>
      rw [List.append_assoc]
      exact .cons token _ blanks lexeme _ blank here ih

/-- A token can be put in front without a blank. -/
theorem written_cons (token : Token) (tokens : List Token)
    (lexeme chars : List Char) (here : token.Spelled lexeme)
    (onward : Written tokens chars) :
    Written (token :: tokens) (lexeme ++ chars) :=
  .cons token tokens [] lexeme chars (by simp) here onward

theorem written_single (token : Token) (lexeme : List Char)
    (here : token.Spelled lexeme) : Written [token] lexeme := by
  simpa using written_cons token [] lexeme [] here (.nil [] (by simp))

end Token

namespace Value

mutual

/-- The tree as which a value is written. -/
def tree : Value → Tree
  | .null => .null
  | .number value => .number (writtenNumber value)
  | .text value => .text (some value)
  | .object members => .object (trees members) true

def trees : List (String × Value) → List (Option String × Tree)
  | [] => []
  | (name, value) :: rest => (some name, value.tree) :: trees rest

end

mutual

theorem written_tree (value : Value) :
    Token.Written value.tree.tokens value.written := by
  cases value with
  | null => exact Token.written_single _ _ .null
  | number value =>
      exact Token.written_single _ _
        (.number _ _ (writtenNumber_spelled value))
  | text text => exact Token.written_single _ _ (writtenText_spelled text)
  | object members =>
      have inside := written_trees members
      have shut := Token.written_single .rightBrace _ .rightBrace
      have whole := Token.written_cons .leftBrace _ _ _ .leftBrace
        (Token.written_append _ _ _ _ inside shut)
      simpa [tree, Tree.tokens, Token.closing, written] using whole

theorem written_trees (members : List (String × Value)) :
    Token.Written (Tree.memberTokens (trees members))
      (writtenMembers members) := by
  match members with
  | [] => exact .nil [] (by simp)
  | [(name, value)] =>
      have inside := written_tree value
      exact Token.written_cons _ _ _ _ (writtenText_spelled name)
        (Token.written_cons _ _ _ _ .colon inside)
  | (name, value) :: next :: rest =>
      have inside := written_tree value
      have onward := written_trees (next :: rest)
      have behind := Token.written_cons _ _ _ _ .comma onward
      have later := Token.written_append _ _ _ _ inside behind
      have whole := Token.written_cons _ _ _ _ (writtenText_spelled name)
        (Token.written_cons _ _ _ _ .colon later)
      obtain ⟨nextName, nextValue⟩ := next
      simpa [trees, Tree.memberTokens, writtenMembers] using whole

end

end Value
end AlarmRelay.Json
