import AlarmRelay.Json.Tree

/-!
# The grammar of JSON texts

How the tokens are spelled and which tokens a tree consists of.  A text is written
for a tree if it spells the tree's tokens one after the other, with blanks anywhere
around them.  No rule here says how a text is read.
-/

set_option autoImplicit false

namespace AlarmRelay.Json

namespace Piece

/-- The spellings of a piece of a string. -/
inductive Spelled : Piece → List Char → Prop where
  | plain (c : Char) (printable : ' ' ≤ c) (unquoted : c ≠ '"')
      (unescaped : c ≠ '\\') : Spelled (.char c) [c]
  | escape (letter c : Char) (known : escaped? letter = some c) :
      Spelled (.char c) ['\\', letter]
  | unit (a b c d : Char) (value : Nat)
      (known : unitValue? a b c d = some value) :
      Spelled (.unit value) ['\\', 'u', a, b, c, d]

/-- The spellings of pieces, one after the other. -/
inductive AllSpelled : List Piece → List Char → Prop where
  | nil : AllSpelled [] []
  | cons (piece : Piece) (pieces : List Piece) (chars more : List Char)
      (here : piece.Spelled chars) (onward : AllSpelled pieces more) :
      AllSpelled (piece :: pieces) (chars ++ more)

end Piece

/-- At least one digit and nothing else. -/
def IsDigits (digits : List Char) : Prop :=
  digits ≠ [] ∧ ∀ c ∈ digits, c.isDigit = true

/-- Digits of which only a lone one may begin with zero. -/
def IsWhole (digits : List Char) : Prop :=
  IsDigits digits ∧ (digits.head? = some '0' → digits = ['0'])

namespace NumberLiteral

/-- The spelling of an optional fraction. -/
def FractionSpelled : Option (List Char) → List Char → Prop
  | none, chars => chars = []
  | some digits, chars => IsDigits digits ∧ chars = '.' :: digits

/-- The spellings of an optional exponent. -/
def ExponentSpelled : Option (Bool × List Char) → List Char → Prop
  | none, chars => chars = []
  | some (negative, digits), chars =>
      IsDigits digits ∧ ∃ mark ∈ ['e', 'E'],
        ∃ sign ∈ if negative then [['-']] else [[], ['+']],
          chars = mark :: sign ++ digits

/-- The spellings of a number. -/
def Spelled (literal : NumberLiteral) (chars : List Char) : Prop :=
  IsWhole literal.whole ∧ ∃ fraction exponent,
    FractionSpelled literal.fraction fraction ∧
    ExponentSpelled literal.exponent exponent ∧
    chars = (if literal.negative then ['-'] else []) ++ literal.whole ++ fraction
      ++ exponent

end NumberLiteral

namespace Token

/-- The spellings of a token; a bad one has none. -/
inductive Spelled : Token → List Char → Prop where
  | leftBrace : Spelled .leftBrace ['\x7b']
  | rightBrace : Spelled .rightBrace ['\x7d']
  | leftBracket : Spelled .leftBracket ['[']
  | rightBracket : Spelled .rightBracket [']']
  | colon : Spelled .colon [':']
  | comma : Spelled .comma [',']
  | null : Spelled .null ['n', 'u', 'l', 'l']
  | yes : Spelled (.flag true) ['t', 'r', 'u', 'e']
  | no : Spelled (.flag false) ['f', 'a', 'l', 's', 'e']
  | number (literal : NumberLiteral) (chars : List Char)
      (spelled : literal.Spelled chars) : Spelled (.number literal) chars
  | text (pieces : List Piece) (chars : List Char)
      (spelled : Piece.AllSpelled pieces chars) :
      Spelled (.text ((assemble pieces).map String.ofList))
        ('"' :: chars ++ ['"'])

/-- The texts that spell some tokens, with blanks anywhere around them. -/
inductive Written : List Token → List Char → Prop where
  | nil (blanks : List Char) (blank : ∀ c ∈ blanks, isBlank c = true) :
      Written [] blanks
  | cons (token : Token) (tokens : List Token) (blanks chars more : List Char)
      (blank : ∀ c ∈ blanks, isBlank c = true) (here : token.Spelled chars)
      (onward : Written tokens more) :
      Written (token :: tokens) (blanks ++ chars ++ more)

/-- A closing token, or none that can be written where it is missing. -/
def closing (closed : Bool) (token : Token) : Token :=
  if closed then token else .bad

end Token

namespace Tree

mutual

/-- The tokens of a tree.  Where it is broken or open they cannot be written. -/
def tokens : Tree → List Token
  | .broken => [.bad]
  | .null => [.null]
  | .flag value => [.flag value]
  | .number literal => [.number literal]
  | .text value => [.text value]
  | .array items closed =>
      .leftBracket :: itemTokens items ++ [.closing closed .rightBracket]
  | .object members closed =>
      .leftBrace :: memberTokens members ++ [.closing closed .rightBrace]

/-- The tokens of items, with commas between them. -/
def itemTokens : List Tree → List Token
  | [] => []
  | [item] => item.tokens
  | item :: next :: rest => item.tokens ++ .comma :: itemTokens (next :: rest)

/-- The tokens of members, with commas between them. -/
def memberTokens : List (Option String × Tree) → List Token
  | [] => []
  | [(name, tree)] => .text name :: .colon :: tree.tokens
  | (name, tree) :: next :: rest =>
      .text name :: .colon :: tree.tokens
        ++ .comma :: memberTokens (next :: rest)

end

/-- The texts that are written for a tree. -/
def WrittenAs (tree : Tree) (text : String) : Prop :=
  Token.Written tree.tokens text.toList

end Tree
end AlarmRelay.Json
