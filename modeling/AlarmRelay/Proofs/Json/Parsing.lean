import AlarmRelay.Proofs.Json.Lexing

/-!
# Reading trees

From the tokens of a tree the tree is built again, so a text that is written for a
tree is read as that tree and nothing is left of it.
-/

set_option autoImplicit false

namespace AlarmRelay.Json

/-! ## Tokens side by side -/

theorem Token.closing_isFollower (closed : Bool) (token : Token)
    (follower : token.isFollower = true) :
    (closing closed token).isFollower = true := by
  cases closed
  · rfl
  · exact follower

/-- Brackets without a bad token are closed and hold none. -/
theorem Token.writable_closing (first last : Token) (inside : List Token)
    (closed : Bool)
    (writable : .bad ∉ first :: inside ++ [closing closed last]) :
    .bad ∉ inside ∧ closed = true := by
  cases closed with
  | false => simp [closing] at writable
  | true =>
      simp only [List.cons_append, List.mem_cons, List.mem_append, not_or]
        at writable
      exact ⟨writable.2.1, rfl⟩

namespace Tree

/-- A row of tokens in front of which a value can stand. -/
structure Follows (rest : List Token) : Prop where
  apart : rest.IsChain Token.Apart
  head : ∀ token ∈ rest.head?, token.isFollower = true

theorem follows_cons (token : Token) (rest : List Token)
    (follower : token.isFollower = true)
    (apart : rest.IsChain Token.Apart) : Follows (token :: rest) where
  head := by
    intro head first
    cases first
    exact follower
  apart := by
    refine List.isChain_cons.mpr ⟨fun next _ number => ?_, apart⟩
    cases token <;> cases number
    cases follower

theorem apart_cons (token : Token) (rest : List Token)
    (other : token.isNumber = false) (apart : rest.IsChain Token.Apart) :
    (token :: rest).IsChain Token.Apart := by
  refine List.isChain_cons.mpr ⟨fun next _ number => ?_, apart⟩
  rw [other] at number
  cases number

mutual

theorem apart_tokens (tree : Tree) (rest : List Token)
    (follows : Follows rest) : (tree.tokens ++ rest).IsChain Token.Apart := by
  cases tree with
  | number literal =>
      exact List.isChain_cons.mpr
        ⟨fun next first _ => follows.head next first, follows.apart⟩
  | array items closed =>
      simp only [tokens, List.cons_append, List.append_assoc,
        List.nil_append]
      refine apart_cons _ _ rfl (apart_items items _ ?_)
      exact follows_cons _ _ (Token.closing_isFollower _ _ rfl) follows.apart
  | object members closed =>
      simp only [tokens, List.cons_append, List.append_assoc,
        List.nil_append]
      refine apart_cons _ _ rfl (apart_members members _ ?_)
      exact follows_cons _ _ (Token.closing_isFollower _ _ rfl) follows.apart
  | _ => exact apart_cons _ _ rfl follows.apart

theorem apart_items (items : List Tree) (rest : List Token)
    (follows : Follows rest) :
    (itemTokens items ++ rest).IsChain Token.Apart := by
  match items with
  | [] => exact follows.apart
  | [item] => exact apart_tokens item rest follows
  | item :: next :: others =>
      rw [itemTokens, List.append_assoc]
      exact apart_tokens item _
        (follows_cons _ _ rfl (apart_items (next :: others) rest follows))

theorem apart_members (members : List (Option String × Tree))
    (rest : List Token) (follows : Follows rest) :
    (memberTokens members ++ rest).IsChain Token.Apart := by
  match members with
  | [] => exact follows.apart
  | [(name, tree)] =>
      exact apart_cons _ _ rfl (apart_cons _ _ rfl (apart_tokens tree rest follows))
  | (name, tree) :: next :: others =>
      rw [memberTokens, List.append_assoc]
      exact apart_cons _ _ rfl (apart_cons _ _ rfl (apart_tokens tree _
        (follows_cons _ _ rfl (apart_members (next :: others) rest follows))))

end

/-! ## Trees from tokens -/

theorem value_array (fuel : Nat) (rest : List Token)
    (opens : rest.head? ≠ some .rightBracket) :
    value (fuel + 1) (.leftBracket :: rest) =
      (.array (items fuel rest).1 (items fuel rest).2.1,
        (items fuel rest).2.2) := by
  cases rest with
  | nil => rfl
  | cons head others => cases head <;> first | rfl | exact absurd rfl opens

theorem value_object (fuel : Nat) (rest : List Token)
    (opens : rest.head? ≠ some .rightBrace) :
    value (fuel + 1) (.leftBrace :: rest) =
      (.object (members fuel rest).1 (members fuel rest).2.1,
        (members fuel rest).2.2) := by
  cases rest with
  | nil => rfl
  | cons head others => cases head <;> first | rfl | exact absurd rfl opens

theorem tokens_head (tree : Tree) (rest : List Token) :
    (tree.tokens ++ rest).head? ≠ some .rightBracket := by
  cases tree <;> simp [tokens]

theorem itemTokens_head (item : Tree) (items : List Tree)
    (rest : List Token) :
    (itemTokens (item :: items) ++ rest).head? ≠ some .rightBracket := by
  cases items with
  | nil => exact item.tokens_head rest
  | cons next others =>
      rw [itemTokens, List.append_assoc]
      exact item.tokens_head _

theorem memberTokens_head (name : Option String) (tree : Tree)
    (members : List (Option String × Tree)) (rest : List Token) :
    (memberTokens ((name, tree) :: members) ++ rest).head? ≠
      some .rightBrace := by
  cases members <;> simp [memberTokens]

/-- With so much fuel, trees, items and members are built again from their tokens,
whatever follows them. -/
structure Builds (fuel : Nat) : Prop where
  value : ∀ tree rest, .bad ∉ tree.tokens → tree.tokens.length ≤ fuel →
    value fuel (tree.tokens ++ rest) = (tree, rest)
  items : ∀ item others rest, .bad ∉ itemTokens (item :: others) →
    (itemTokens (item :: others)).length < fuel →
      items fuel (itemTokens (item :: others) ++ .rightBracket :: rest) =
        (item :: others, true, rest)
  members : ∀ member others rest, .bad ∉ memberTokens (member :: others) →
    (memberTokens (member :: others)).length < fuel →
      members fuel (memberTokens (member :: others) ++ .rightBrace :: rest) =
        (member :: others, true, rest)

section

variable (fuel : Nat) (builds : Builds fuel)

include builds

theorem value_tokens (tree : Tree) (rest : List Token)
    (writable : .bad ∉ tree.tokens) (enough : tree.tokens.length ≤ fuel + 1) :
    value (fuel + 1) (tree.tokens ++ rest) = (tree, rest) := by
  cases tree with
  | broken => exact absurd List.mem_cons_self writable
  | array items closed =>
      obtain ⟨inside, rfl⟩ := Token.writable_closing _ _ _ _ writable
      simp only [tokens, List.cons_append, List.append_assoc, List.nil_append,
        List.length_cons, List.length_append] at enough ⊢
      cases items with
      | nil => rfl
      | cons item others =>
          rw [value_array _ _ (itemTokens_head item others _), Token.closing,
            if_pos rfl, builds.items item others rest inside (by omega)]
  | object members closed =>
      obtain ⟨inside, rfl⟩ := Token.writable_closing _ _ _ _ writable
      simp only [tokens, List.cons_append, List.append_assoc, List.nil_append,
        List.length_cons, List.length_append] at enough ⊢
      cases members with
      | nil => rfl
      | cons member others =>
          rw [value_object _ _ (memberTokens_head member.1 member.2 others _),
            Token.closing, if_pos rfl,
            builds.members member others rest inside (by omega)]
  | _ => rfl

theorem items_tokens (item : Tree) (others : List Tree) (rest : List Token)
    (writable : .bad ∉ itemTokens (item :: others))
    (enough : (itemTokens (item :: others)).length < fuel + 1) :
    items (fuel + 1) (itemTokens (item :: others) ++ .rightBracket :: rest) =
      (item :: others, true, rest) := by
  cases others with
  | nil =>
      rw [itemTokens] at writable enough ⊢
      rw [items, builds.value item _ writable (by omega)]
  | cons next more =>
      simp only [itemTokens, List.mem_append, List.mem_cons, not_or,
        List.length_append, List.length_cons] at writable enough
      rw [itemTokens, List.append_assoc, List.cons_append, items,
        builds.value item _ writable.1 (by omega)]
      simp only [builds.items next more rest writable.2.2 (by omega)]

theorem members_tokens (member : Option String × Tree)
    (others : List (Option String × Tree)) (rest : List Token)
    (writable : .bad ∉ memberTokens (member :: others))
    (enough : (memberTokens (member :: others)).length < fuel + 1) :
    members (fuel + 1)
        (memberTokens (member :: others) ++ .rightBrace :: rest) =
      (member :: others, true, rest) := by
  obtain ⟨name, tree⟩ := member
  cases others with
  | nil =>
      simp only [memberTokens, List.mem_cons, not_or, List.length_cons]
        at writable enough
      rw [memberTokens, List.cons_append, List.cons_append, members,
        builds.value tree _ writable.2.2 (by omega)]
  | cons next more =>
      simp only [memberTokens, List.mem_append, List.mem_cons, not_or,
        List.length_append, List.length_cons, List.cons_append]
        at writable enough
      rw [memberTokens, List.append_assoc, List.cons_append, List.cons_append,
        List.cons_append, members,
        builds.value tree _ writable.2.2.1 (by omega)]
      simp only [builds.members next more rest writable.2.2.2.2 (by omega)]

end

theorem tokens_pos (tree : Tree) : 0 < tree.tokens.length := by
  cases tree <;> simp [tokens]

theorem builds (fuel : Nat) : Builds fuel := by
  induction fuel with
  | zero =>
      refine ⟨fun tree _ _ enough => ?_, fun _ _ _ _ enough => ?_,
        fun _ _ _ _ enough => ?_⟩
      · exact absurd enough (Nat.not_le.mpr tree.tokens_pos)
      · exact absurd enough (Nat.not_lt_zero _)
      · exact absurd enough (Nat.not_lt_zero _)
  | succ fuel ih =>
      exact ⟨value_tokens fuel ih, items_tokens fuel ih, members_tokens fuel ih⟩

/-! ## Trees from texts -/

theorem writable_written (tokens : List Token) (chars : List Char)
    (written : Token.Written tokens chars) : .bad ∉ tokens := by
  induction written with
  | nil blanks blank => exact List.not_mem_nil
  | cons token tokens blanks lexeme more blank here onward ih =>
      intro member
      rcases List.mem_cons.mp member with rfl | later
      · cases here
      · exact ih later

/-- A text that is written for a tree is read as that tree, to its end. -/
theorem parse_written (tree : Tree) (text : String)
    (written : tree.WrittenAs text) : parse text = (tree, true) := by
  have apart := apart_tokens tree [] ⟨List.isChain_nil, by simp⟩
  rw [List.append_nil] at apart
  have built := (builds (2 * tree.tokens.length + 1)).value tree []
    (writable_written _ _ written) (by omega)
  rw [List.append_nil] at built
  rw [parse, tokens_written _ _ written apart, ofTokens, built]
  rfl

end Tree
end AlarmRelay.Json
