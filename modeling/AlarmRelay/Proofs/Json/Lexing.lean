import AlarmRelay.Json.Grammar
import Mathlib.Data.List.Chain

/-!
# Reading tokens

However tokens are spelled and whatever blanks surround them, they are read as the
tokens they are, as long as a number is not followed at once by what could be more
of it.
-/

set_option autoImplicit false

namespace AlarmRelay.Json

/-! ## Strings -/

theorem scanPieces_piece (piece : Piece) (chars rest : List Char)
    (spelled : piece.Spelled chars) :
    scanPieces (chars ++ rest) =
      (scanPieces rest).map fun scanned => (piece :: scanned.1, scanned.2) := by
  cases spelled with
  | plain c printable unquoted unescaped =>
      have visible : ¬ c < ' ' := Char.not_lt.mpr printable
      rw [List.singleton_append, scanPieces]
      · simp only [beq_eq_false_iff_ne.mpr unescaped, visible]
        cases scanPieces rest <;> rfl
      all_goals simp_all
  | escape letter c known =>
      have other : letter ≠ 'u' := by
        rintro rfl
        cases known
      rw [List.cons_append, List.cons_append, List.nil_append, scanPieces]
      · rw [known]
        cases scanPieces rest <;> rfl
      all_goals simp_all
  | unit a b c d value known =>
      simp only [List.cons_append, List.nil_append, scanPieces, known]
      cases scanPieces rest <;> rfl

theorem scanPieces_spelled (pieces : List Piece) (chars rest : List Char)
    (spelled : Piece.AllSpelled pieces chars) :
    scanPieces (chars ++ '"' :: rest) = some (pieces, rest) := by
  induction spelled with
  | nil => rfl
  | cons piece pieces chars more here onward ih =>
      rw [List.append_assoc, scanPieces_piece piece chars _ here, ih]
      rfl

/-! ## Numbers -/

/-- Whether a character could be more of a number. -/
def goesOn (c : Char) : Bool :=
  c.isDigit || c == '.' || c == 'e' || c == 'E'

/-- A text that does not begin with more of a number. -/
def Halts (rest : List Char) : Prop :=
  ∀ c ∈ rest.head?, goesOn c = false

theorem spanDigits_append (digits rest : List Char)
    (all : ∀ c ∈ digits, c.isDigit = true)
    (ends : ∀ c ∈ rest.head?, c.isDigit = false) :
    spanDigits (digits ++ rest) = (digits, rest) := by
  have behind : rest.takeWhile Char.isDigit = [] ∧
      rest.dropWhile Char.isDigit = rest := by
    cases rest with
    | nil => exact ⟨rfl, rfl⟩
    | cons c more =>
        have stop : c.isDigit = false := ends c rfl
        simp [stop]
  rw [spanDigits, List.takeWhile_append_of_pos all,
    List.dropWhile_append_of_pos all, behind.1, behind.2, List.append_nil]

theorem scanWhole_spelled (digits rest : List Char) (whole : IsWhole digits)
    (ends : ∀ c ∈ rest.head?, c.isDigit = false) :
    scanWhole (digits ++ rest) = some (digits, rest) := by
  obtain ⟨⟨some, all⟩, lone⟩ := whole
  cases digits with
  | nil => exact absurd rfl some
  | cons c more =>
      have spans := spanDigits_append (c :: more) rest all ends
      by_cases zero : c = '0'
      · subst zero
        rw [lone rfl]
        cases rest with
        | nil => rfl
        | cons next others =>
            have stop : next.isDigit = false := ends next rfl
            simp [scanWhole, stop]
      · have digit : c.isDigit = true := all c List.mem_cons_self
        rw [List.cons_append] at spans ⊢
        rw [scanWhole, if_pos digit, spans]
        · exact fun _ _ equal _ => zero equal
        · exact fun equal _ => zero equal

theorem scanFraction_spelled (fraction : Option (List Char))
    (chars rest : List Char)
    (spelled : NumberLiteral.FractionSpelled fraction chars)
    (ends : ∀ c ∈ rest.head?, c.isDigit = false ∧ c ≠ '.') :
    scanFraction (chars ++ rest) = some (fraction, rest) := by
  cases fraction with
  | none =>
      rw [show chars = [] from spelled, List.nil_append, scanFraction]
      rintro more rfl
      exact (ends '.' rfl).2 rfl
  | some digits =>
      obtain ⟨⟨some, all⟩, rfl⟩ := spelled
      rw [List.cons_append, scanFraction,
        spanDigits_append digits rest all fun c member => (ends c member).1]
      cases digits with
      | nil => exact absurd rfl some
      | cons digit more => rfl

theorem scanSign_spelled (negative : Bool) (sign digits : List Char)
    (spelled : sign ∈ if negative then [['-']] else [[], ['+']])
    (begins : ∀ c ∈ digits.head?, c.isDigit = true) :
    scanSign (sign ++ digits) = (negative, digits) := by
  cases negative with
  | true =>
      rw [if_pos rfl, List.mem_singleton] at spelled
      rw [spelled]
      rfl
  | false =>
      simp only [Bool.false_eq_true, if_false, List.mem_cons, List.not_mem_nil,
        or_false] at spelled
      rcases spelled with rfl | rfl
      · rw [List.nil_append, scanSign]
        · rintro more rfl
          cases begins '-' rfl
        · rintro more rfl
          cases begins '+' rfl
      · rfl

theorem scanExponent_spelled (exponent : Option (Bool × List Char))
    (chars rest : List Char)
    (spelled : NumberLiteral.ExponentSpelled exponent chars)
    (ends : Halts rest) :
    scanExponent (chars ++ rest) = some (exponent, rest) := by
  cases exponent with
  | none =>
      rw [show chars = [] from spelled, List.nil_append]
      cases rest with
      | nil => rfl
      | cons c more =>
          have stop := ends c rfl
          simp only [goesOn, Bool.or_eq_false_iff] at stop
          simp [scanExponent, stop]
  | some parts =>
      obtain ⟨negative, digits⟩ := parts
      obtain ⟨⟨some, all⟩, mark, isMark, sign, signs, rfl⟩ := spelled
      have marked : (mark == 'e' || mark == 'E') = true := by
        simpa using isMark
      have begins : ∀ c ∈ (digits ++ rest).head?, c.isDigit = true := by
        cases digits with
        | nil => exact absurd rfl some
        | cons digit more =>
            intro c first
            cases first
            exact all digit List.mem_cons_self
      have stops : ∀ c ∈ rest.head?, c.isDigit = false := by
        intro c first
        have stop := ends c first
        simp only [goesOn, Bool.or_eq_false_iff] at stop
        exact stop.1.1.1
      rw [List.append_assoc, List.cons_append, scanExponent, if_pos marked,
        scanSign_spelled negative sign _ signs begins]
      simp only [spanDigits_append digits rest all stops]

theorem scanMagnitude_spelled (literal : NumberLiteral)
    (fraction exponent rest : List Char) (whole : IsWhole literal.whole)
    (point : NumberLiteral.FractionSpelled literal.fraction fraction)
    (scale : NumberLiteral.ExponentSpelled literal.exponent exponent)
    (ends : Halts rest) :
    scanMagnitude literal.negative
        (literal.whole ++ (fraction ++ (exponent ++ rest))) =
      some (literal, rest) := by
  -- Neither the exponent nor what follows it looks like more of the parts before.
  have behind : ∀ c ∈ (exponent ++ rest).head?, c.isDigit = false ∧ c ≠ '.' := by
    cases parts : literal.exponent with
    | none =>
        rw [parts] at scale
        rw [show exponent = [] from scale]
        intro c first
        have stop := ends c first
        simp only [goesOn, Bool.or_eq_false_iff, beq_eq_false_iff_ne] at stop
        exact ⟨stop.1.1.1, stop.1.1.2⟩
    | some parts' =>
        rw [parts] at scale
        obtain ⟨_, mark, isMark, sign, _, rfl⟩ := scale
        intro c first
        cases first
        simp only [List.mem_cons, List.not_mem_nil, or_false] at isMark
        rcases isMark with rfl | rfl <;> decide
  have ahead : ∀ c ∈ (fraction ++ (exponent ++ rest)).head?,
      c.isDigit = false := by
    cases digits : literal.fraction with
    | none =>
        rw [digits] at point
        rw [show fraction = [] from point]
        exact fun c first => (behind c first).1
    | some digits' =>
        rw [digits] at point
        rw [point.2]
        intro c first
        cases first
        rfl
  rw [scanMagnitude, scanWhole_spelled _ _ whole ahead]
  simp only [Option.bind_eq_bind, Option.bind_some]
  rw [scanFraction_spelled _ _ _ point behind]
  simp only [Option.bind_some]
  rw [scanExponent_spelled _ _ _ scale ends]
  rfl

theorem scanNumber_spelled (literal : NumberLiteral) (chars rest : List Char)
    (spelled : literal.Spelled chars) (ends : Halts rest) :
    scanNumber (chars ++ rest) = some (literal, rest) := by
  obtain ⟨whole, fraction, exponent, point, scale, rfl⟩ := spelled
  have scanned := scanMagnitude_spelled literal fraction exponent rest whole point
    scale ends
  cases sign : literal.negative with
  | true =>
      rw [sign] at scanned
      simp only [if_true, List.append_assoc, List.singleton_append, scanNumber]
      exact scanned
  | false =>
      rw [sign] at scanned
      simp only [Bool.false_eq_true, if_false, List.append_assoc,
        List.nil_append]
      rw [scanNumber, scanned]
      -- A digit comes first, so the text does not begin with a sign.
      intro more equal
      obtain ⟨⟨some, all⟩, _⟩ := whole
      cases digits : literal.whole with
      | nil => exact some digits
      | cons digit others =>
          rw [digits] at equal all
          cases equal
          cases all '-' List.mem_cons_self

/-! ## Tokens -/

namespace Token

def isNumber : Token → Bool
  | .number _ => true
  | _ => false

/-- Whether a token can stand behind a value; a bad one stands for none. -/
def isFollower : Token → Bool
  | .comma | .rightBracket | .rightBrace | .bad => true
  | _ => false

/-- Two tokens that are told apart even without a blank between them. -/
def Apart (first second : Token) : Prop :=
  first.isNumber = true → second.isFollower = true

end Token

theorem scanToken_number (c : Char) (more : List Char)
    (begins : c = '-' ∨ c.isDigit = true) :
    scanToken (c :: more) = (scanNumber (c :: more)).map fun scanned =>
      (.number scanned.1, scanned.2) := by
  have other : ∀ d : Char, d ≠ '-' → d.isDigit = false → c ≠ d := by
    rintro d notSign notDigit rfl
    rcases begins with sign | digit
    · exact notSign sign
    · rw [notDigit] at digit
      cases digit
  rw [scanToken]
  · cases scanNumber (c :: more) <;> rfl
  all_goals
    intro _ equal
    cases equal
    exact absurd rfl (other _ (by decide) (by decide))

theorem number_begins (literal : NumberLiteral) (chars : List Char)
    (spelled : literal.Spelled chars) :
    ∃ c more, chars = c :: more ∧ (c = '-' ∨ c.isDigit = true) := by
  obtain ⟨⟨⟨some, all⟩, _⟩, fraction, exponent, _, _, rfl⟩ := spelled
  cases digits : literal.whole with
  | nil => exact absurd digits some
  | cons digit others =>
      have isDigit : digit.isDigit = true := by
        rw [digits] at all
        exact all digit List.mem_cons_self
      cases literal.negative with
      | true => exact ⟨'-', _, rfl, Or.inl rfl⟩
      | false => exact ⟨digit, _, rfl, Or.inr isDigit⟩

theorem scanToken_spelled (token : Token) (chars rest : List Char)
    (spelled : token.Spelled chars)
    (ends : token.isNumber = true → Halts rest) :
    scanToken (chars ++ rest) = some (token, rest) := by
  cases spelled with
  | number literal chars spelled =>
      obtain ⟨c, more, rfl, begins⟩ := number_begins literal chars spelled
      have scanned := scanNumber_spelled literal _ rest spelled (ends rfl)
      rw [List.cons_append] at scanned ⊢
      rw [scanToken_number c _ begins, scanned]
      rfl
  | text pieces chars spelled =>
      have scanned := scanPieces_spelled pieces chars rest spelled
      simp only [List.cons_append, List.append_assoc, List.nil_append, scanToken,
        scanned]
      rfl
  | _ => rfl

/-- A token is spelled with at least one character, and not with a blank first. -/
theorem spelled_begins (token : Token) (chars : List Char)
    (spelled : token.Spelled chars) :
    ∃ c more, chars = c :: more ∧ isBlank c = false := by
  cases spelled with
  | number literal chars spelled =>
      obtain ⟨c, more, rfl, begins⟩ := number_begins literal chars spelled
      refine ⟨c, more, rfl, ?_⟩
      rcases begins with rfl | digit
      · decide
      · apply Bool.eq_false_iff.mpr
        intro blank
        simp only [isBlank, Bool.or_eq_true, beq_iff_eq] at blank
        rcases blank with ((rfl | rfl) | rfl) | rfl <;> cases digit
  | _ => exact ⟨_, _, rfl, by decide⟩

theorem halts_blank (c : Char) (blank : isBlank c = true) :
    goesOn c = false := by
  simp only [isBlank, Bool.or_eq_true, beq_iff_eq] at blank
  rcases blank with ((rfl | rfl) | rfl) | rfl <;> decide

/-- Blanks and followers of values are no more of a number. -/
theorem halts_written (tokens : List Token) (chars : List Char)
    (written : Token.Written tokens chars)
    (followed : ∀ token ∈ tokens.head?, token.isFollower = true) :
    Halts chars := by
  cases written with
  | nil blanks blank =>
      intro c first
      exact halts_blank c (blank c (List.mem_of_mem_head? first))
  | cons token tokens blanks lexeme more blank here onward =>
      intro c first
      cases blanks with
      | cons head others =>
          cases first
          exact halts_blank c (blank c List.mem_cons_self)
      | nil =>
          have follower := followed token rfl
          cases here <;> cases follower <;> cases first <;> decide

theorem dropWhile_blanks (blanks rest : List Char)
    (blank : ∀ c ∈ blanks, isBlank c = true) :
    (blanks ++ rest).dropWhile isBlank = rest.dropWhile isBlank :=
  List.dropWhile_append_of_pos blank

theorem tokensWithin_written (tokens : List Token) (chars : List Char)
    (fuel : Nat) (written : Token.Written tokens chars)
    (apart : tokens.IsChain Token.Apart) (enough : chars.length ≤ fuel) :
    tokensWithin fuel chars = tokens := by
  induction written generalizing fuel with
  | nil blanks blank =>
      cases fuel with
      | zero => rfl
      | succ fuel =>
          have nothing : blanks.dropWhile isBlank = [] := by
            simpa using dropWhile_blanks blanks [] blank
          rw [tokensWithin, nothing]
  | cons token tokens blanks lexeme more blank here onward ih =>
      obtain ⟨followed, others⟩ := List.isChain_cons.mp apart
      have scanned := scanToken_spelled token lexeme more here fun number =>
        halts_written tokens more onward fun next first =>
          followed next first number
      obtain ⟨c, rest, rfl, visible⟩ := spelled_begins token lexeme here
      have fewer : more.length < fuel := by
        simp only [List.length_append, List.length_cons] at enough
        omega
      obtain ⟨less, rfl⟩ := Nat.exists_eq_succ_of_ne_zero
        (Nat.ne_of_gt (Nat.lt_of_le_of_lt (Nat.zero_le _) fewer))
      rw [tokensWithin, List.append_assoc, dropWhile_blanks blanks _ blank,
        List.cons_append, List.dropWhile_cons_of_neg (by simp [visible])]
      rw [List.cons_append] at scanned
      simp only [scanned]
      rw [ih less others (Nat.le_of_lt_succ fewer)]

theorem tokens_written (tokens : List Token) (chars : List Char)
    (written : Token.Written tokens chars)
    (apart : tokens.IsChain Token.Apart) : Json.tokens chars = tokens :=
  tokensWithin_written tokens chars chars.length written apart (Nat.le_refl _)

end AlarmRelay.Json
