/-!
# Blanks, comments and line ends

What may stand between the parts of a text.  A carriage return is only ever the
first half of a line end, and a comment may not hold control characters other
than tabs.
-/

set_option autoImplicit false

namespace AlarmRelay.Toml

/-- The characters between parts of one line. -/
def isBlank (c : Char) : Bool := c == ' ' || c == '\t'

/-- The characters that texts and comments may hold as they are. -/
def isPlain (c : Char) : Bool := c == '\t' || (' ' ≤ c && c != '\x7f')

def skipBlanks (input : List Char) : List Char := input.dropWhile isBlank

def lineEnd? : List Char → Option (List Char)
  | '\n' :: rest => some rest
  | '\r' :: '\n' :: rest => some rest
  | _ => none

/-- The text behind the rest of a line that holds nothing but blanks and a
comment. -/
def skipLine (input : List Char) : Option (List Char) :=
  let rest := match skipBlanks input with
    | '#' :: rest => rest.dropWhile isPlain
    | rest => rest
  if rest.isEmpty then some [] else lineEnd? rest

/-- The text behind blanks, line ends and whole comments; `inComment` says that a
comment is open. -/
def skipGap : Bool → List Char → Option (List Char)
  | inComment, [] => if inComment then none else some []
  | _, '\n' :: rest => skipGap false rest
  | _, '\r' :: '\n' :: rest => skipGap false rest
  | true, c :: rest => if isPlain c then skipGap true rest else none
  | false, c :: rest =>
      if isBlank c then skipGap false rest
      else if c == '#' then skipGap true rest
      else if c == '\r' then none
      else some (c :: rest)

end AlarmRelay.Toml
