import AlarmRelay.Toml.Document

/-!
# What a text says

A text says what stands at the places of its document, and a place is named by the
keys that lead to it from the top.  Under which header a key is written, whether dots
join it to others, whether braces hold it, and in which order places are mentioned is
the business of layout: it decides which statement says something, and not what the
text says.
-/

set_option autoImplicit false

namespace AlarmRelay.Toml

/-- What stands at a place. -/
inductive Sight where
  | table
  /-- Tables that share a header. -/
  | tables
  | value (value : Value)

/-- What a value shows at and below its place. -/
def Value.sight : List String → Value → Option Sight
  | [], .table _ => some .table
  | [], value => some (.value value)
  | name :: place, .table members =>
      (members.lookup name).bind (Value.sight place)
  | _ :: _, _ => none

/-- What a statement puts at a place. -/
inductive Subject where
  | table
  /-- One more of the tables that share a header. -/
  | item
  | value (value : Value)

/-- A subject at the place where a statement puts it. -/
structure Assertion where
  path : List String
  subject : Subject

namespace Subject

def sight (place : List String) : Subject → Option Sight
  | .table => if place = [] then some .table else none
  | .item => if place = [] then some .tables else none
  | .value given => given.sight place

/-- What a subject at the end of a path shows at a place: whatever lies on the way
to it is a table. -/
def shows (subject : Subject) : List String → List String → Option Sight
  | [], place => subject.sight place
  | _ :: _, [] => some .table
  | key :: path, name :: place =>
      if key = name then shows subject path place else none

end Subject

def Assertion.states (assertion : Assertion) (place : List String) : Option Sight :=
  assertion.subject.shows assertion.path place

namespace Statement

/-- What a statement below a header asserts.  Headers do not belong below one
another. -/
def assertion (header : List String) : Statement → Assertion
  | .header path name => ⟨path ++ [name], .table⟩
  | .item path name => ⟨path ++ [name], .item⟩
  | .pair path name given => ⟨header ++ path ++ [name], .value given⟩

/-- The header below which the next statement stands. -/
def nextHeader (header : List String) : Statement → List String
  | .header path name | .item path name => path ++ [name]
  | .pair _ _ _ => header

end Statement

/-- What statements below a header assert. -/
def assertions (header : List String) : List Statement → List Assertion
  | [] => []
  | statement :: rest =>
      statement.assertion header :: assertions (statement.nextHeader header) rest

/-- What assertions say of a place.  Tables that share a header hide what stands
below them. -/
structure Says (asserted : List Assertion) (place : List String) (sight : Sight) :
    Prop where
  said : ∃ assertion ∈ asserted, assertion.states place = some sight
  shown : ∀ assertion ∈ asserted, assertion.subject = .item →
    assertion.path <+: place → assertion.path = place ∧ sight = .tables

/-- What a text says of a place. -/
def Tells (text : String) (place : List String) (sight : Sight) : Prop :=
  ∃ statements, statements? text = some statements ∧
    Says (assertions [] statements) place sight

end AlarmRelay.Toml
