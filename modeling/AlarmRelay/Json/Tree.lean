import AlarmRelay.Json.Token

/-!
# JSON trees

The tree of a text, as far as the text is well formed.  Where it is not, the tree
ends in `broken`, every array or object around that place stays open, and nothing
follows, so that a reader who walks the tree in document order meets the fault
exactly where the text has it.
-/

set_option autoImplicit false

namespace AlarmRelay.Json

/-- A value, as far as its text is well formed. -/
inductive Tree where
  /-- The text is not well formed here. -/
  | broken
  | null
  | flag (value : Bool)
  | number (literal : NumberLiteral)
  /-- A string; without a value if its escapes leave half a pair. -/
  | text (value : Option String)
  /-- The items, and whether the array is closed. -/
  | array (items : List Tree) (closed : Bool)
  /-- The members, and whether the object is closed. -/
  | object (members : List (Option String × Tree)) (closed : Bool)

namespace Tree

instance : Inhabited Tree := ⟨.broken⟩

mutual

/-- The tree at the head of tokens and the tokens behind it; `fuel` is at least
the number of tokens. -/
def value : Nat → List Token → Tree × List Token
  | 0, _ => (.broken, [])
  | fuel + 1, tokens =>
      match tokens with
      | .null :: rest => (.null, rest)
      | .flag value :: rest => (.flag value, rest)
      | .number literal :: rest => (.number literal, rest)
      | .text value :: rest => (.text value, rest)
      | .leftBracket :: .rightBracket :: rest => (.array [] true, rest)
      | .leftBracket :: rest =>
          let (items, closed, rest) := items fuel rest
          (.array items closed, rest)
      | .leftBrace :: .rightBrace :: rest => (.object [] true, rest)
      | .leftBrace :: rest =>
          let (members, closed, rest) := members fuel rest
          (.object members closed, rest)
      | _ => (.broken, [])

/-- The items of an array up to its closing bracket. -/
def items : Nat → List Token → List Tree × Bool × List Token
  | 0, _ => ([], false, [])
  | fuel + 1, tokens =>
      let (head, rest) := value fuel tokens
      match rest with
      | .comma :: rest =>
          let (tail, closed, rest) := items fuel rest
          (head :: tail, closed, rest)
      | .rightBracket :: rest => ([head], true, rest)
      | _ => ([head], false, [])

/-- The members of an object up to its closing brace. -/
def members : Nat → List Token →
    List (Option String × Tree) × Bool × List Token
  | 0, _ => ([], false, [])
  | fuel + 1, tokens =>
      match tokens with
      | .text key :: .colon :: rest =>
          let (head, rest) := value fuel rest
          match rest with
          | .comma :: rest =>
              let (tail, closed, rest) := members fuel rest
              ((key, head) :: tail, closed, rest)
          | .rightBrace :: rest => ([(key, head)], true, rest)
          | _ => ([(key, head)], false, [])
      | .text key :: _ => ([(key, .broken)], false, [])
      | _ => ([], false, [])

end

def ofTokens (tokens : List Token) : Tree × Bool :=
  let (tree, rest) := value (2 * tokens.length + 1) tokens
  (tree, rest.isEmpty)

def parse (text : String) : Tree × Bool :=
  ofTokens (tokens text.toList)

end Tree
end AlarmRelay.Json
