import AlarmRelay.Text.Digit
import AlarmRelay.Toml.Blank

/-!
# Quoted strings

Strings between double quotes know escapes, strings between single quotes do
not.  Tripled quotes open a string of several lines: a line end directly behind
them is dropped, up to two quotes may stand anywhere, also directly before the
closing ones, and between double quotes a backslash at the end of a line takes
the blanks and line ends behind it away.
-/

set_option autoImplicit false

namespace AlarmRelay.Toml

/-- The two marks that open and close strings. -/
inductive Quote where
  | double
  | single
  deriving DecidableEq, Repr

namespace Quote

def char : Quote → Char
  | .double => '"'
  | .single => '\''

end Quote

/-- The character of a code point that hexadecimal digits write. -/
def codePoint? (digits : List Char) : Option Char := do
  let value := Text.valueIn 16 digits
  if digits.all Text.isHexDigit && value.isValidChar then some (Char.ofNat value)
  else none

/-- The character that an escape stands for, and the text behind it; the
backslash is already taken. -/
def scanEscape : List Char → Option (Char × List Char)
  | 'b' :: rest => some ('\x08', rest)
  | 't' :: rest => some ('\t', rest)
  | 'n' :: rest => some ('\n', rest)
  | 'f' :: rest => some ('\x0c', rest)
  | 'r' :: rest => some ('\r', rest)
  | '"' :: rest => some ('"', rest)
  | '\\' :: rest => some ('\\', rest)
  | 'u' :: a :: b :: c :: d :: rest => do
      let value ← codePoint? [a, b, c, d]
      return (value, rest)
  | 'U' :: a :: b :: c :: d :: e :: f :: g :: h :: rest => do
      let value ← codePoint? [a, b, c, d, e, f, g, h]
      return (value, rest)
  | _ => none

/-- The characters of a string of one line and the text behind its closing
quote; `fuel` is more than the length of the text. -/
def scanShort (quote : Quote) : Nat → List Char → Option (List Char × List Char)
  | 0, _ => none
  | fuel + 1, input =>
      match input with
      | [] => none
      | c :: rest =>
          if c == quote.char then some ([], rest)
          else if c == '\\' && quote == .double then do
            let (value, rest) ← scanEscape rest
            let (values, rest) ← scanShort quote fuel rest
            return (value :: values, rest)
          else if isPlain c then do
            let (values, rest) ← scanShort quote fuel rest
            return (c :: values, rest)
          else none

/-- Blanks and line ends at the head of a text, where a carriage return counts
only before a newline. -/
def skipBreaks : List Char → List Char
  | '\r' :: '\n' :: rest => skipBreaks rest
  | c :: rest => if isBlank c || c == '\n' then skipBreaks rest else c :: rest
  | [] => []

/-- One piece of a string of several lines, which does not begin with three
quotes. -/
def scanPiece (quote : Quote) : List Char → Option (List Char × List Char)
  | [] => none
  | c :: rest =>
      if c == '\\' && quote == .double then
        match lineEnd? (skipBlanks rest) with
        | some rest => some ([], skipBreaks rest)
        | none => (scanEscape rest).map (fun (value, rest) => ([value], rest))
      else if isPlain c then some ([c], rest)
      else (lineEnd? (c :: rest)).map (fun rest => (['\n'], rest))

/-- The text behind three quotes. -/
def tripled? (quote : Quote) : List Char → Option (List Char)
  | a :: b :: c :: rest =>
      if a == quote.char && b == quote.char && c == quote.char then some rest
      else none
  | _ => none

/-- At most two quotes at the head of a text, and the text behind them. -/
def spareQuotes (quote : Quote) (input : List Char) : List Char × List Char :=
  let count := min 2 (input.takeWhile (· == quote.char)).length
  (input.take count, input.drop count)

/-- The characters of a string of several lines and the text behind its closing
quotes; `fuel` is more than the length of the text. -/
def scanLong (quote : Quote) : Nat → List Char → Option (List Char × List Char)
  | 0, _ => none
  | fuel + 1, input =>
      match tripled? quote input with
      | some rest => some (spareQuotes quote rest)
      | none => do
          let (piece, rest) ← scanPiece quote input
          let (values, rest) ← scanLong quote fuel rest
          return (piece ++ values, rest)

/-- A string that may stand for a value; its text begins with a quote. -/
def scanString (quote : Quote) (input : List Char) :
    Option (String × List Char) := do
  let (values, rest) ← match tripled? quote input with
    | some rest => scanLong quote (rest.length + 1) ((lineEnd? rest).getD rest)
    | none => scanShort quote (input.length + 1) (input.drop 1)
  return (String.ofList values, rest)

/-- A string that may stand for a key; its text begins with a quote. -/
def scanQuotedKey (quote : Quote) (input : List Char) :
    Option (String × List Char) := do
  let (values, rest) ← scanShort quote (input.length + 1) (input.drop 1)
  return (String.ofList values, rest)

end AlarmRelay.Toml
