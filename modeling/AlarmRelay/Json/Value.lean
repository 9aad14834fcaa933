import AlarmRelay.Text.Digit

/-!
# Written values

Values as they are written: without blanks, the members of an object in the
order in which they are given, and in strings an escape for quotes, backslashes
and control characters only.
-/

set_option autoImplicit false

namespace AlarmRelay.Json

inductive Value where
  | null
  | number (value : Nat)
  | text (value : String)
  | object (members : List (String × Value))

/-- A character as it is written in a string. -/
def writtenChar (c : Char) : List Char :=
  match c with
  | '"' => ['\\', '"']
  | '\\' => ['\\', '\\']
  | '\x08' => ['\\', 'b']
  | '\x0c' => ['\\', 'f']
  | '\n' => ['\\', 'n']
  | '\r' => ['\\', 'r']
  | '\t' => ['\\', 't']
  | c =>
      if c < ' ' then
        ['\\', 'u', '0', '0', Text.hexDigit (c.toNat / 16),
          Text.hexDigit (c.toNat % 16)]
      else [c]

def writtenText (text : String) : List Char :=
  '"' :: text.toList.flatMap writtenChar ++ ['"']

namespace Value

mutual

def written : Value → List Char
  | .null => ['n', 'u', 'l', 'l']
  | .number value => Nat.toDigits 10 value
  | .text value => writtenText value
  | .object members => '\x7b' :: writtenMembers members ++ ['\x7d']

/-- Members as they are written, with commas between them. -/
def writtenMembers : List (String × Value) → List Char
  | [] => []
  | [(name, value)] => writtenText name ++ ':' :: value.written
  | (name, value) :: rest =>
      writtenText name ++ ':' :: value.written ++ ',' :: writtenMembers rest

end

def render (value : Value) : String := String.ofList value.written

def optional {α : Type} (write : α → Value) : Option α → Value
  | none => .null
  | some value => write value

end Value
end AlarmRelay.Json
