import AlarmRelay.Proofs.Json.Parsing

/-!
# Texts that are read whole

A text that is read as a whole tree, with nothing broken or open in it, is written
for that tree.  So the texts of the grammar are exactly those that are read whole.
-/

set_option autoImplicit false

namespace AlarmRelay.Json

/-! ## Strings -/

theorem scanPieces_sound (input rest : List Char) (pieces : List Piece)
    (scanned : scanPieces input = some (pieces, rest)) :
    ∃ chars, input = chars ++ '"' :: rest ∧ Piece.AllSpelled pieces chars := by
  induction input using scanPieces.induct generalizing pieces with
  | case1 => cases scanned
  | case2 behind =>
      cases scanned
      exact ⟨[], rfl, .nil⟩
  | case3 a b c d more ih =>
      rw [scanPieces] at scanned
      simp only [Option.bind_eq_bind, Option.bind_eq_some_iff] at scanned
      obtain ⟨value, known, ⟨others, behind⟩, onward, result⟩ := scanned
      cases result
      obtain ⟨chars, rfl, spelled⟩ := ih others onward
      exact ⟨_, rfl, .cons _ _ _ _ (.unit a b c d value known) spelled⟩
  | case4 letter more other ih =>
      rw [scanPieces] at scanned
      · simp only [Option.bind_eq_bind, Option.bind_eq_some_iff] at scanned
        obtain ⟨c, known, ⟨others, behind⟩, onward, result⟩ := scanned
        cases result
        obtain ⟨chars, rfl, spelled⟩ := ih others onward
        exact ⟨_, rfl, .cons _ _ _ _ (.escape letter c known) spelled⟩
      · exact other
  | case5 c more unquoted long short control =>
      rw [scanPieces, if_pos control] at scanned
      · cases scanned
      · exact unquoted
      · exact long
      · exact short
  | case6 c more unquoted long short plain ih =>
      rw [scanPieces, if_neg plain] at scanned
      · simp only [Option.bind_eq_bind, Option.bind_eq_some_iff] at scanned
        obtain ⟨⟨others, behind⟩, onward, result⟩ := scanned
        cases result
        obtain ⟨chars, rfl, spelled⟩ := ih others onward
        simp only [Bool.or_eq_true, beq_iff_eq, decide_eq_true_eq, not_or]
          at plain
        exact ⟨_, rfl, .cons _ _ _ _
          (.plain c (Char.not_lt.mp plain.2) unquoted plain.1) spelled⟩
      · exact unquoted
      · exact long
      · exact short

/-! ## Numbers -/

theorem spanDigits_sound (input digits rest : List Char)
    (spans : spanDigits input = (digits, rest)) :
    input = digits ++ rest ∧ ∀ c ∈ digits, c.isDigit = true := by
  cases spans
  refine ⟨(List.takeWhile_append_dropWhile).symm, fun c member => ?_⟩
  exact List.all_eq_true.mp List.all_takeWhile c member

theorem scanWhole_sound (input digits rest : List Char)
    (scanned : scanWhole input = some (digits, rest)) :
    input = digits ++ rest ∧ IsWhole digits := by
  have zero : IsWhole ['0'] := by
    refine ⟨⟨by simp, ?_⟩, fun _ => rfl⟩
    intro c member
    rw [List.mem_singleton.mp member]
    decide
  unfold scanWhole at scanned
  split at scanned
  · split at scanned <;> cases scanned
    exact ⟨rfl, zero⟩
  · cases scanned
    exact ⟨rfl, zero⟩
  · rename_i c more long short
    split at scanned
    · rename_i digit
      cases scanned
      obtain ⟨same, all⟩ := spanDigits_sound (c :: more) _ _ rfl
      have head : ((c :: more).takeWhile Char.isDigit) =
          c :: more.takeWhile Char.isDigit := List.takeWhile_cons_of_pos digit
      refine ⟨same, ⟨by simp [head], all⟩, ?_⟩
      rw [head]
      intro begins
      cases begins
      cases more with
      | nil => exact absurd rfl (short rfl)
      | cons next others => exact absurd rfl (long next others rfl)
    · cases scanned
  · cases scanned

theorem scanFraction_sound (input rest : List Char)
    (fraction : Option (List Char))
    (scanned : scanFraction input = some (fraction, rest)) :
    ∃ chars, input = chars ++ rest ∧
      NumberLiteral.FractionSpelled fraction chars := by
  unfold scanFraction at scanned
  split at scanned
  · rename_i more
    split at scanned
    · cases scanned
    · rename_i digits behind some spans
      cases scanned
      obtain ⟨rfl, all⟩ := spanDigits_sound more digits _ spans
      exact ⟨_, rfl, ⟨some, all⟩, rfl⟩
  · cases scanned
    exact ⟨[], rfl, rfl⟩

theorem scanSign_sound (input rest : List Char) (negative : Bool)
    (scanned : scanSign input = (negative, rest)) :
    ∃ sign ∈ if negative then [['-']] else [[], ['+']],
      input = sign ++ rest := by
  unfold scanSign at scanned
  split at scanned <;> cases scanned
  · exact ⟨['-'], by simp, rfl⟩
  · exact ⟨['+'], by simp, rfl⟩
  · exact ⟨[], by simp, rfl⟩

theorem scanExponent_sound (input rest : List Char)
    (exponent : Option (Bool × List Char))
    (scanned : scanExponent input = some (exponent, rest)) :
    ∃ chars, input = chars ++ rest ∧
      NumberLiteral.ExponentSpelled exponent chars := by
  unfold scanExponent at scanned
  split at scanned
  · rename_i c more
    split at scanned
    · rename_i mark
      cases signed : scanSign more with
      | mk negative behind =>
          simp only [signed] at scanned
          split at scanned
          · cases scanned
          · rename_i digits after some spans
            cases scanned
            obtain ⟨sign, signs, rfl⟩ := scanSign_sound more behind negative signed
            obtain ⟨rfl, all⟩ := spanDigits_sound behind digits _ spans
            refine ⟨c :: sign ++ digits, by simp, ⟨some, all⟩, c, ?_, sign, signs,
              rfl⟩
            simpa using mark
    · cases scanned
      exact ⟨[], rfl, rfl⟩
  · cases scanned
    exact ⟨[], rfl, rfl⟩

theorem scanMagnitude_sound (negative : Bool) (input rest : List Char)
    (literal : NumberLiteral)
    (scanned : scanMagnitude negative input = some (literal, rest)) :
    ∃ chars, (if negative then ['-'] else []) ++ input = chars ++ rest ∧
      literal.Spelled chars := by
  simp only [scanMagnitude, Option.bind_eq_bind, Option.bind_eq_some_iff]
    at scanned
  obtain ⟨⟨whole, second⟩, one, ⟨fraction, third⟩, two, ⟨exponent, last⟩, three,
    result⟩ := scanned
  cases result
  obtain ⟨rfl, isWhole⟩ := scanWhole_sound _ _ _ one
  obtain ⟨point, rfl, pointed⟩ := scanFraction_sound _ _ _ two
  obtain ⟨scale, rfl, scaled⟩ := scanExponent_sound _ _ _ three
  refine ⟨_, ?_, isWhole, point, scale, pointed, scaled, rfl⟩
  simp

theorem scanNumber_sound (input rest : List Char) (literal : NumberLiteral)
    (scanned : scanNumber input = some (literal, rest)) :
    ∃ chars, input = chars ++ rest ∧ literal.Spelled chars := by
  unfold scanNumber at scanned
  split at scanned
  · exact scanMagnitude_sound true _ rest literal scanned
  · exact scanMagnitude_sound false _ rest literal scanned

/-! ## Tokens -/

theorem scanToken_sound (input rest : List Char) (token : Token)
    (scanned : scanToken input = some (token, rest)) :
    ∃ chars, input = chars ++ rest ∧ token.Spelled chars := by
  unfold scanToken at scanned
  split at scanned
  case h_7 =>
    simp only [Option.bind_eq_bind, Option.bind_eq_some_iff] at scanned
    obtain ⟨⟨pieces, behind⟩, onward, result⟩ := scanned
    cases result
    obtain ⟨chars, rfl, spelled⟩ := scanPieces_sound _ _ _ onward
    exact ⟨_, by simp, .text pieces chars spelled⟩
  case h_11 =>
    simp only [Option.bind_eq_bind, Option.bind_eq_some_iff] at scanned
    obtain ⟨⟨literal, behind⟩, onward, result⟩ := scanned
    cases result
    obtain ⟨chars, rfl, spelled⟩ := scanNumber_sound _ _ _ onward
    exact ⟨chars, rfl, .number literal chars spelled⟩
  all_goals
    cases scanned
    exact ⟨_, rfl, by constructor⟩

theorem tokensWithin_sound (fuel : Nat) (input : List Char)
    (enough : input.length ≤ fuel) (whole : .bad ∉ tokensWithin fuel input) :
    Token.Written (tokensWithin fuel input) input := by
  induction fuel generalizing input with
  | zero =>
      rw [List.length_eq_zero_iff.mp (Nat.le_zero.mp enough)]
      exact .nil [] (by simp)
  | succ fuel ih =>
      have split := List.takeWhile_append_dropWhile (p := isBlank) (l := input)
      have blank : ∀ c ∈ input.takeWhile isBlank, isBlank c = true :=
        fun c member => List.all_eq_true.mp List.all_takeWhile c member
      rw [tokensWithin] at whole ⊢
      cases visible : input.dropWhile isBlank with
      | nil =>
          rw [visible, List.append_nil] at split
          rw [split] at blank
          exact .nil input blank
      | cons c more =>
          simp only [visible] at whole ⊢
          cases scanned : scanToken (c :: more) with
          | none => simp [scanned] at whole
          | some result =>
              obtain ⟨token, rest⟩ := result
              simp only [scanned, List.mem_cons, not_or] at whole ⊢
              obtain ⟨chars, same, spelled⟩ := scanToken_sound _ _ _ scanned
              obtain ⟨first, others, rfl, _⟩ := spelled_begins token chars spelled
              have shorter : rest.length ≤ fuel := by
                have count := congrArg List.length split
                rw [visible, same] at count
                simp only [List.length_append, List.length_cons] at count
                omega
              have onward := ih rest shorter whole.2
              have written := Token.Written.cons token _ _ _ rest blank spelled onward
              rw [List.append_assoc, ← same, ← visible, split] at written
              exact written

/-! ## Trees -/

namespace Tree

/-- With so much fuel, whole trees, items and members come from their own tokens. -/
structure Consumes (fuel : Nat) : Prop where
  value : ∀ tokens tree rest, value fuel tokens = (tree, rest) →
    .bad ∉ tree.tokens → tokens = tree.tokens ++ rest
  items : ∀ tokens found rest, items fuel tokens = (found, true, rest) →
    .bad ∉ itemTokens found →
      found ≠ [] ∧ tokens = itemTokens found ++ .rightBracket :: rest
  members : ∀ tokens found rest, members fuel tokens = (found, true, rest) →
    .bad ∉ memberTokens found →
      found ≠ [] ∧ tokens = memberTokens found ++ .rightBrace :: rest

section

variable (fuel : Nat) (consumes : Consumes fuel)

include consumes

theorem tokens_value (input rest : List Token) (tree : Tree)
    (read : value (fuel + 1) input = (tree, rest))
    (writable : .bad ∉ tree.tokens) : input = tree.tokens ++ rest := by
  unfold value at read
  split at read
  case h_6 =>
    rename_i more _
    cases inner : items fuel more with
    | mk found behind =>
        obtain ⟨closed, after⟩ := behind
        simp only [inner] at read
        cases read
        obtain ⟨inside, rfl⟩ := Token.writable_closing _ _ _ _ writable
        rw [(consumes.items more found _ inner inside).2]
        simp [tokens, Token.closing]
  case h_8 =>
    rename_i more _
    cases inner : members fuel more with
    | mk found behind =>
        obtain ⟨closed, after⟩ := behind
        simp only [inner] at read
        cases read
        obtain ⟨inside, rfl⟩ := Token.writable_closing _ _ _ _ writable
        rw [(consumes.members more found _ inner inside).2]
        simp [tokens, Token.closing]
  case h_9 =>
    cases read
    exact absurd List.mem_cons_self writable
  all_goals
    cases read
    rfl

theorem tokens_items (input rest : List Token) (found : List Tree)
    (read : items (fuel + 1) input = (found, true, rest))
    (writable : .bad ∉ itemTokens found) :
    found ≠ [] ∧ input = itemTokens found ++ .rightBracket :: rest := by
  cases first : value fuel input with
  | mk head behind =>
      simp only [items, first] at read
      split at read
      · rename_i more
        cases later : items fuel more with
        | mk tail after =>
            obtain ⟨closed, last⟩ := after
            simp only [later] at read
            cases read
            refine ⟨List.cons_ne_nil _ _, ?_⟩
            cases tail with
            | nil =>
                exact absurd rfl (consumes.items more [] _ later (by simp [itemTokens])).1
            | cons next others =>
                simp only [itemTokens, List.mem_append, List.mem_cons, not_or]
                  at writable
                rw [consumes.value input head _ first writable.1,
                  (consumes.items more _ _ later writable.2.2).2]
                simp [itemTokens]
      · cases read
        rw [itemTokens] at writable ⊢
        exact ⟨List.cons_ne_nil _ _, consumes.value input head _ first writable⟩
      · cases read

theorem tokens_members (input rest : List Token)
    (found : List (Option String × Tree))
    (read : members (fuel + 1) input = (found, true, rest))
    (writable : .bad ∉ memberTokens found) :
    found ≠ [] ∧ input = memberTokens found ++ .rightBrace :: rest := by
  unfold members at read
  split at read
  · rename_i name inner
    cases first : value fuel inner with
    | mk head behind =>
        simp only [first] at read
        split at read
        · rename_i more
          cases later : members fuel more with
          | mk tail after =>
              obtain ⟨closed, last⟩ := after
              simp only [later] at read
              cases read
              refine ⟨List.cons_ne_nil _ _, ?_⟩
              cases tail with
              | nil =>
                  exact absurd rfl
                    (consumes.members more [] _ later (by simp [memberTokens])).1
              | cons next others =>
                  simp only [memberTokens, List.cons_append, List.mem_append,
                    List.mem_cons, not_or] at writable
                  rw [consumes.value inner head _ first writable.2.2.1,
                    (consumes.members more _ _ later writable.2.2.2.2).2]
                  simp [memberTokens]
        · cases read
          simp only [memberTokens, List.mem_cons, not_or] at writable
          refine ⟨List.cons_ne_nil _ _, ?_⟩
          rw [consumes.value inner head _ first writable.2.2]
          simp [memberTokens]
        · cases read
  · cases read
  · cases read

end

theorem consumes (fuel : Nat) : Consumes fuel := by
  induction fuel with
  | zero =>
      refine ⟨fun _ _ _ read writable => ?_, fun _ _ _ read _ => ?_,
        fun _ _ _ read _ => ?_⟩
      · cases read
        exact absurd List.mem_cons_self writable
      · cases read
      · cases read
  | succ fuel ih =>
      exact ⟨fun input tree rest => tokens_value fuel ih input rest tree,
        fun input found rest => tokens_items fuel ih input rest found,
        fun input found rest => tokens_members fuel ih input rest found⟩

/-- A text that is cut into the tokens of a tree is written for it. -/
theorem writtenAs_tokens (tree : Tree) (text : String)
    (cut : Json.tokens text.toList = tree.tokens)
    (writable : .bad ∉ tree.tokens) : tree.WrittenAs text := by
  rw [← cut] at writable
  have written := tokensWithin_sound text.toList.length text.toList
    (Nat.le_refl _) writable
  rw [WrittenAs, ← cut]
  exact written

theorem writtenAs_letters (tree : Tree) (text : String) (letters : List Char)
    (spelled : text.toList = letters) (cut : Json.tokens letters = tree.tokens)
    (writable : .bad ∉ tree.tokens) : tree.WrittenAs text :=
  tree.writtenAs_tokens text (by rwa [spelled]) writable

/-- Exactly the texts that are written for a tree are read as it, whole and to
their end. -/
theorem writtenAs_iff (tree : Tree) (text : String) :
    tree.WrittenAs text ↔ parse text = (tree, true) ∧ .bad ∉ tree.tokens := by
  constructor
  · intro written
    exact ⟨tree.parse_written text written, writable_written _ _ written⟩
  · rintro ⟨read, writable⟩
    cases built : value (2 * (Json.tokens text.toList).length + 1)
        (Json.tokens text.toList) with
    | mk found rest =>
        simp only [parse, ofTokens, built] at read
        obtain ⟨rfl, nothing⟩ := Prod.mk.inj read
        rw [List.isEmpty_iff.mp nothing] at built
        have same := (consumes _).value _ _ _ built writable
        rw [List.append_nil] at same
        exact found.writtenAs_tokens text same writable

end Tree
end AlarmRelay.Json
