import AlarmRelay.Text.Digit

/-!
# JSON tokens

A text is cut into tokens up to its end or to the first place that no token
fits; a `bad` token marks such a place and nothing follows it.  Strings are read
in two passes: first the characters and the 16-bit units written as escapes,
then the pairing of units.  A string whose units do not pair is still a string
token, one without a value.
-/

set_option autoImplicit false

namespace AlarmRelay.Json

structure NumberLiteral where
  negative : Bool
  whole : List Char
  /-- Digits behind the point. -/
  fraction : Option (List Char)
  /-- Whether the exponent is negative, and its digits. -/
  exponent : Option (Bool × List Char)
  deriving DecidableEq, Repr

inductive Token where
  | leftBrace
  | rightBrace
  | leftBracket
  | rightBracket
  | colon
  | comma
  | null
  | flag (value : Bool)
  | number (literal : NumberLiteral)
  /-- A string; without a value if its escapes leave half a pair. -/
  | text (value : Option String)
  /-- A place where no token fits. -/
  | bad
  deriving DecidableEq, Repr

def isBlank (c : Char) : Bool :=
  c == ' ' || c == '\t' || c == '\n' || c == '\r'

def unitValue? (a b c d : Char) : Option Nat := do
  let a ← Text.hexValue? a
  let b ← Text.hexValue? b
  let c ← Text.hexValue? c
  let d ← Text.hexValue? d
  return ((a * 16 + b) * 16 + c) * 16 + d

inductive Piece where
  | char (c : Char)
  /-- A 16-bit unit written as an escape. -/
  | unit (value : Nat)
  deriving DecidableEq, Repr

def escaped? : Char → Option Char
  | '"' => some '"'
  | '\\' => some '\\'
  | '/' => some '/'
  | 'b' => some '\x08'
  | 'f' => some '\x0c'
  | 'n' => some '\n'
  | 'r' => some '\r'
  | 't' => some '\t'
  | _ => none

/-- The pieces of a string up to its closing quote, and the text behind it. -/
def scanPieces : List Char → Option (List Piece × List Char)
  | [] => none
  | '"' :: rest => some ([], rest)
  | '\\' :: 'u' :: a :: b :: c :: d :: rest => do
      let value ← unitValue? a b c d
      let (pieces, rest) ← scanPieces rest
      return (.unit value :: pieces, rest)
  | '\\' :: letter :: rest => do
      let c ← escaped? letter
      let (pieces, rest) ← scanPieces rest
      return (.char c :: pieces, rest)
  | c :: rest =>
      if c == '\\' || c < ' ' then none
      else do
        let (pieces, rest) ← scanPieces rest
        return (.char c :: pieces, rest)

def isHighHalf (value : Nat) : Bool := 0xD800 ≤ value && value < 0xDC00

def isLowHalf (value : Nat) : Bool := 0xDC00 ≤ value && value < 0xE000

/-- The character that two halves write. -/
def pairChar (high low : Nat) : Char :=
  Char.ofNat (0x10000 + (high - 0xD800) * 0x400 + (low - 0xDC00))

/-- The characters of a string, if every half of a pair finds its other half. -/
def assemble : List Piece → Option (List Char)
  | [] => some []
  | .char c :: rest => (assemble rest).map (c :: ·)
  | .unit high :: .unit low :: rest =>
      if isHighHalf high then
        if isLowHalf low then (assemble rest).map (pairChar high low :: ·)
        else none
      else if isLowHalf high then none
      else (assemble (.unit low :: rest)).map (Char.ofNat high :: ·)
  | .unit value :: rest =>
      if isHighHalf value || isLowHalf value then none
      else (assemble rest).map (Char.ofNat value :: ·)

/-- The digits at the head of a text and the text behind them. -/
def spanDigits (input : List Char) : List Char × List Char :=
  (input.takeWhile Char.isDigit, input.dropWhile Char.isDigit)

/-- A whole part: one zero, or digits that do not begin with one. -/
def scanWhole : List Char → Option (List Char × List Char)
  | '0' :: c :: rest => if c.isDigit then none else some (['0'], c :: rest)
  | ['0'] => some (['0'], [])
  | c :: rest => if c.isDigit then some (spanDigits (c :: rest)) else none
  | [] => none

/-- An optional fraction; a point needs a digit behind it. -/
def scanFraction : List Char → Option (Option (List Char) × List Char)
  | '.' :: rest =>
      match spanDigits rest with
      | ([], _) => none
      | (digits, rest) => some (some digits, rest)
  | rest => some (none, rest)

def scanSign : List Char → Bool × List Char
  | '-' :: rest => (true, rest)
  | '+' :: rest => (false, rest)
  | rest => (false, rest)

/-- An optional exponent; its mark needs a digit behind it. -/
def scanExponent : List Char → Option (Option (Bool × List Char) × List Char)
  | c :: rest =>
      if c == 'e' || c == 'E' then
        let (negative, rest) := scanSign rest
        match spanDigits rest with
        | ([], _) => none
        | (digits, rest) => some (some (negative, digits), rest)
      else some (none, c :: rest)
  | [] => some (none, [])

def scanMagnitude (negative : Bool) (input : List Char) :
    Option (NumberLiteral × List Char) := do
  let (whole, rest) ← scanWhole input
  let (fraction, rest) ← scanFraction rest
  let (exponent, rest) ← scanExponent rest
  return (⟨negative, whole, fraction, exponent⟩, rest)

def scanNumber : List Char → Option (NumberLiteral × List Char)
  | '-' :: rest => scanMagnitude true rest
  | input => scanMagnitude false input

/-- The token at the head of a text that does not begin with a blank, and the
text behind it. -/
def scanToken : List Char → Option (Token × List Char)
  | '\x7b' :: rest => some (.leftBrace, rest)
  | '\x7d' :: rest => some (.rightBrace, rest)
  | '[' :: rest => some (.leftBracket, rest)
  | ']' :: rest => some (.rightBracket, rest)
  | ':' :: rest => some (.colon, rest)
  | ',' :: rest => some (.comma, rest)
  | '"' :: rest => do
      let (pieces, rest) ← scanPieces rest
      return (.text ((assemble pieces).map String.ofList), rest)
  | 'n' :: 'u' :: 'l' :: 'l' :: rest => some (.null, rest)
  | 't' :: 'r' :: 'u' :: 'e' :: rest => some (.flag true, rest)
  | 'f' :: 'a' :: 'l' :: 's' :: 'e' :: rest => some (.flag false, rest)
  | input => do
      let (literal, rest) ← scanNumber input
      return (.number literal, rest)

/-- The tokens of a text; `fuel` is at least its length. -/
def tokensWithin : Nat → List Char → List Token
  | 0, _ => []
  | fuel + 1, input =>
      match input.dropWhile isBlank with
      | [] => []
      | input =>
          match scanToken input with
          | none => [.bad]
          | some (token, rest) => token :: tokensWithin fuel rest

def tokens (input : List Char) : List Token :=
  tokensWithin input.length input

end AlarmRelay.Json
