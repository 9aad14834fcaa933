import AlarmRelay.Toml.Quoted
import AlarmRelay.Toml.Scalar
import AlarmRelay.Toml.Table

/-!
# Statements

A text is a sequence of statements, one a line: a header, a header that opens one
more of several tables, or a key with a value.  Only arrays and long strings may
continue on the next line.
-/

set_option autoImplicit false

namespace AlarmRelay.Toml

inductive Statement where
  | header (path : List String) (name : String)
  /-- Open one more of the tables that share a header. -/
  | item (path : List String) (name : String)
  | pair (path : List String) (name : String) (value : Value)

/-- The most keys that dots may join, and one more than the deepest nesting of
arrays and inline tables. -/
def depthLimit : Nat := 80

def quote? : Char → Option Quote
  | '"' => some .double
  | '\'' => some .single
  | _ => none

/-- Whether a character may stand in a key without quotes. -/
def isBare (c : Char) : Bool := c.isAlphanum || c == '_' || c == '-'

def scanBareKey (input : List Char) : Option (String × List Char) :=
  match input.takeWhile isBare with
  | [] => none
  | name => some (String.ofList name, input.dropWhile isBare)

def scanSimpleKey : List Char → Option (String × List Char)
  | [] => none
  | c :: rest =>
      match quote? c with
      | some quote => scanQuotedKey quote (c :: rest)
      | none => scanBareKey (c :: rest)

/-- The keys that dots join: all but the last, and the last. -/
def scanKey : Nat → List Char → Option (List String × String × List Char)
  | 0, _ => none
  | fuel + 1, input => do
      let (name, rest) ← scanSimpleKey (skipBlanks input)
      match skipBlanks rest with
      | '.' :: rest =>
          let (path, last, rest) ← scanKey fuel rest
          return (name :: path, last, rest)
      | rest => return ([], name, rest)

def scanDottedKey : List Char → Option (List String × String × List Char) :=
  scanKey (depthLimit - 1)

mutual

/-- A value; `depth` bounds the nesting and `fuel` is more than the length of the
text. -/
def scanValue : Nat → Nat → List Char → Option (Value × List Char)
  | 0, _, _ => none
  | fuel + 1, depth, input =>
      match input with
      | '[' :: rest =>
          if depth == 0 then none
          else do
            let (items, rest) ← scanItems fuel (depth - 1) rest
            return (.array items, rest)
      | '\x7b' :: rest =>
          if depth == 0 then none
          else
            match skipBlanks rest with
            | '\x7d' :: rest => some (.table [], rest)
            | rest => do
                let (members, rest) ← scanMembers fuel (depth - 1) [] rest
                return (.table (Node.finishMembers members), rest)
      | c :: _ =>
          match quote? c with
          | some quote =>
              (scanString quote input).map (fun (text, rest) => (.text text, rest))
          | none => scanScalar input
      | [] => none

/-- The items of an array, which may spread over lines and end in a comma. -/
def scanItems : Nat → Nat → List Char → Option (List Value × List Char)
  | 0, _, _ => none
  | fuel + 1, depth, input => do
      match ← skipGap false input with
      | ']' :: rest => return ([], rest)
      | rest =>
          let (value, rest) ← scanValue fuel depth rest
          match ← skipGap false rest with
          | ',' :: rest =>
              let (values, rest) ← scanItems fuel depth rest
              return (value :: values, rest)
          | ']' :: rest => return ([value], rest)
          | _ => none

/-- The members of an inline table, which stay on one line and do not end in a
comma. -/
def scanMembers : Nat → Nat → Nodes → List Char → Option (Nodes × List Char)
  | 0, _, _, _ => none
  | fuel + 1, depth, members, input => do
      let (path, name, rest) ← scanDottedKey input
      let rest ← behind? '=' rest
      let (value, rest) ← scanValue fuel depth (skipBlanks rest)
      let members ← Nodes.addAt true name value path members
      match skipBlanks rest with
      | ',' :: rest => scanMembers fuel depth members rest
      | '\x7d' :: rest => return (members, rest)
      | _ => none

end

/-- A key with its value, and the text behind the line. -/
def scanPair (input : List Char) : Option (Statement × List Char) := do
  let (path, name, rest) ← scanDottedKey input
  let rest ← behind? '=' rest
  let (value, rest) ← scanValue (2 * input.length + 2) (depthLimit - 1)
    (skipBlanks rest)
  let rest ← skipLine rest
  return (.pair path name value, rest)

def scanHeader (input : List Char) : Option (Statement × List Char) := do
  match input with
  | '[' :: rest =>
      let (path, name, rest) ← scanDottedKey rest
      let rest ← behind? ']' rest
      let rest ← behind? ']' rest
      let rest ← skipLine rest
      return (.item path name, rest)
  | _ =>
      let (path, name, rest) ← scanDottedKey input
      let rest ← behind? ']' rest
      let rest ← skipLine rest
      return (.header path name, rest)

/-- The statements of a text; `fuel` is more than its length. -/
def scanStatements : Nat → List Char → Option (List Statement)
  | 0, _ => none
  | fuel + 1, input =>
      match skipBlanks input with
      | [] => some []
      | c :: rest =>
          if c == '#' || c == '\n' || c == '\r' then do
            let rest ← skipLine (c :: rest)
            scanStatements fuel rest
          else do
            let (statement, rest) ←
              if c == '[' then scanHeader rest else scanPair (c :: rest)
            let statements ← scanStatements fuel rest
            return statement :: statements

/-- The text behind a byte order mark, if there is one. -/
def skipMark : List Char → List Char
  | c :: rest => if c == '\ufeff' then rest else c :: rest
  | [] => []

def statements? (text : String) : Option (List Statement) :=
  let input := skipMark text.toList
  scanStatements (input.length + 1) input

end AlarmRelay.Toml
