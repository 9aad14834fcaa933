import AlarmRelay.Json.Record

/-!
# What trees say

Which trees stand for which values.  A record is the values of its fields, however
its text is laid out: as an object whose members stand in any order, among members
of other names, or as an array of the values in the order of the fields.
-/

set_option autoImplicit false

namespace AlarmRelay.Json

/-- The literal is that of a natural number, without a fraction or an exponent. -/
structure NumberLiteral.Counts (literal : NumberLiteral) (value : Nat) :
    Prop where
  positive : literal.negative = false
  whole : literal.fraction = none
  plain : literal.exponent = none
  value : Text.valueIn 10 literal.whole = value

namespace Tree

def IsText (tree : Tree) (value : String) : Prop :=
  tree = .text (some value)

def IsNatural (tree : Tree) (value : Nat) : Prop :=
  ∃ literal, tree = .number literal ∧ literal.Counts value

def IsWord32 (tree : Tree) (value : UInt32) : Prop :=
  tree.IsNatural value.toNat

def IsWord64 (tree : Tree) (value : UInt64) : Prop :=
  tree.IsNatural value.toNat

/-- A label is a string, or the name of a lone member that says nothing. -/
def IsLabel {α : Type} (label : α → String) (tree : Tree) (value : α) : Prop :=
  tree = .text (some (label value)) ∨
    tree = .object [(some (label value), .null)] true

/-- The closed object of some members.  Their names are strings; a name whose escapes
leave half a pair is none, and no record has one. -/
def ofMembers (members : Members) : Tree :=
  .object (members.map fun member => (some member.1, member.2)) true

/-- An object whose names are strings and whose members are as described. -/
def IsObject (holds : Members → Prop) (tree : Tree) : Prop :=
  ∃ members, tree = .ofMembers members ∧ holds members

/-- A record of so many fields, whose members are as described. -/
def IsRecord (names : List String) (holds : Members → Prop) (tree : Tree) :
    Prop :=
  (∃ members, tree = .ofMembers members ∧ holds members) ∨
    ∃ items, tree = .array items true ∧ items.length = names.length ∧
      holds (names.zip items)

end Tree

namespace Members

/-- The values that are given under a name, in the order of the text. -/
def given (members : Members) (name : String) : List Tree :=
  members.filterMap fun member =>
    if member.1 = name then some member.2 else none

section

variable {α : Type} (means : Tree → α → Prop) (members : Members)
  (name : String)

/-- The field is given once, and as this value. -/
def Gives (value : α) : Prop :=
  ∃ tree, members.given name = [tree] ∧ means tree value

/-- The field is missing or given once as nothing. -/
def Lacks : Prop :=
  members.given name = [] ∨ members.given name = [.null]

/-- The field is missing or given once as nothing, or it is given once and as this
value. -/
def MayGive : Option α → Prop
  | none => members.Lacks name
  | some value => members.Gives means name value

/-- The field is given exactly once, as something acceptable. -/
def HasOne : Prop :=
  ∃ tree, members.given name = [tree] ∧ ∃ value, means tree value

/-- The field is given at most once, as nothing or as something acceptable. -/
def HasAtMostOne : Prop :=
  members.given name = [] ∨
    ∃ tree, members.given name = [tree] ∧
      (tree = .null ∨ ∃ value, means tree value)

end

/-- The known fields are given alike; a field that may be missing may be given as
nothing instead. -/
structure Agree (required optional : List String) (first second : Members) :
    Prop where
  required : ∀ name ∈ required, first.given name = second.given name
  optional : ∀ name ∈ optional, first.given name = second.given name ∨
    first.Lacks name ∧ second.Lacks name

end Members
end AlarmRelay.Json
