import AlarmRelay.Json.ReadError
import AlarmRelay.Json.Tree

/-!
# Readers

A reader takes a tree apart or says why it cannot.  A reader that meets a value
of another kind names what it found; to name a number or a string it has to read
it, while arrays and objects are named unread.
-/

set_option autoImplicit false

namespace AlarmRelay.Json

/-- A way to take a tree apart. -/
abbrev Reader (α : Type) := Tree → Except ReadError α

namespace Tree

/-- What a tree is, for a reader that expected something else. -/
def found : Tree → Except ReadError Found
  | .broken => .error .malformed
  | .null => .ok .null
  | .flag value => .ok (.flag value)
  | .number literal =>
      match literal.value? with
      | some value => .ok (.number value)
      | none => .error .malformed
  | .text (some value) => .ok (.text value)
  | .text none => .error .malformed
  | .array _ _ => .ok .sequence
  | .object _ _ => .ok .map

end Tree

namespace Reader

def mismatch {α : Type} (expected : Expected) : Reader α := fun tree => do
  let found ← tree.found
  .error (.invalidType found expected)

def text : Reader String
  | .text (some value) => .ok value
  | tree => mismatch .text tree

def below (limit : Nat) (expected : Expected) : Reader Nat
  | .number literal =>
      match literal.value? with
      | none => .error .malformed
      | some (.natural value) =>
          if value < limit then .ok value
          else .error (.invalidValue (.number (.natural value)) expected)
      | some (.negative magnitude) =>
          .error (.invalidValue (.number (.negative magnitude)) expected)
      | some (.real negative magnitude) =>
          .error (.invalidType (.number (.real negative magnitude)) expected)
  | tree => mismatch expected tree

def word32 : Reader UInt32 := fun tree =>
  UInt32.ofNat <$> below UInt32.size .word32 tree

def word64 : Reader UInt64 := fun tree =>
  UInt64.ofNat <$> below UInt64.size .word64 tree

/-- Read the value that carries no information. -/
def nothing : Reader Unit
  | .null => .ok ()
  | tree => mismatch .nothing tree

/-- Read nothing as absence and everything else as presence. -/
def optional {α : Type} (read : Reader α) : Reader (Option α)
  | .null => .ok none
  | tree => some <$> read tree

/-- Read one of several labels: a string, or an object whose only member has the
label for a name and nothing for a value.  An object that does not begin with a name,
be it empty or not, is malformed. -/
def label {α : Type} (ofLabel? : String → Option α) (known : List String) :
    Reader α := fun tree =>
  let choose := fun (label : String) =>
    match ofLabel? label with
    | some value => Except.ok value
    | none => .error (.unknownLabel label known)
  match tree with
  | .text (some label) => choose label
  | .object ((some label, content) :: rest) closed => do
      let value ← choose label
      nothing content
      if closed && rest.isEmpty then .ok value else .error .malformed
  | _ => .error .malformed

def run {α : Type} (read : Reader α) (text : String) : Except ReadError α := do
  let (tree, alone) := Tree.parse text
  let value ← read tree
  if alone then .ok value else .error .malformed

end Reader
end AlarmRelay.Json
