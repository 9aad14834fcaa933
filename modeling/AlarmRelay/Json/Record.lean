import AlarmRelay.Json.Reader

/-!
# Records

A record is written as an object, its members in any order among members of
other names, or as an array of its fields in order.  It is read in two steps.
First every known field is checked in the order of the text, a field that occurs
twice being refused at its second occurrence; then the fields are looked up by
name in the order of their declaration.
-/

set_option autoImplicit false

namespace AlarmRelay.Json

structure FieldRule where
  name : String
  /-- Refuse a value that the field does not accept. -/
  check : Reader Unit

structure RecordRule where
  title : String
  /-- The fields in the order of their declaration. -/
  fields : List FieldRule

abbrev Members := List (String × Tree)

namespace FieldRule

def of {α : Type} (name : String) (read : Reader α) : FieldRule where
  name := name
  check := fun tree => do
    let _ ← read tree
    .ok ()

end FieldRule

namespace Members

/-- The value of a field that has to be there. -/
def required {α : Type} (members : Members) (name : String) (read : Reader α) :
    Except ReadError α :=
  match members.lookup name with
  | some tree => read tree
  | none => .error (.missingField name)

/-- The value of a field that may be missing. -/
def optional {α : Type} (members : Members) (name : String) (read : Reader α) :
    Except ReadError (Option α) :=
  match members.lookup name with
  | some tree => Reader.optional read tree
  | none => .ok none

end Members

namespace RecordRule

def field? (rule : RecordRule) (name : String) : Option FieldRule :=
  rule.fields.find? (fun field => field.name == name)

/-- Check the members of an object; `seen` holds the known names before them. -/
def checkMembers (rule : RecordRule) :
    List String → List (Option String × Tree) → Except ReadError Unit
  | _, [] => .ok ()
  | _, (none, _) :: _ => .error .malformed
  | seen, (some name, tree) :: rest =>
      match rule.field? name with
      | none => checkMembers rule seen rest
      | some field =>
          if seen.contains name then .error (.duplicateField name)
          else do
            field.check tree
            checkMembers rule (name :: seen) rest

/-- Check the items of an array against the fields that are left. -/
def checkItems (rule : RecordRule) (closed : Bool) :
    List FieldRule → List Tree → Except ReadError Unit
  | [], items =>
      if closed && items.isEmpty then .ok () else .error .malformed
  | field :: fields, [] =>
      if closed then
        .error (.invalidLength (rule.fields.length - (field :: fields).length)
          rule.title rule.fields.length)
      else .error .malformed
  | field :: fields, item :: items => do
      field.check item
      checkItems rule closed fields items

/-- The members of an object that have a name. -/
def named (members : List (Option String × Tree)) : Members :=
  members.filterMap (fun (name, tree) => name.map (·, tree))

def members (rule : RecordRule) : Reader Members
  | .object members closed => do
      rule.checkMembers [] members
      if closed then .ok (named members) else .error .malformed
  | .array items closed => do
      rule.checkItems closed rule.fields items
      .ok ((rule.fields.map FieldRule.name).zip items)
  | tree => Reader.mismatch (.record rule.title) tree

end RecordRule
end AlarmRelay.Json
