import AlarmRelay.Decimal.Notation
import AlarmRelay.Json.Number
import AlarmRelay.Text.Inspect

/-!
# Why a text does not decode

The causes for which a text is refused, and the wording of each.  A text that is
not well formed has no wording of its own.
-/

set_option autoImplicit false

namespace AlarmRelay.Json

/-- What a text has in a place where something else was expected. -/
inductive Found where
  | null
  | flag (value : Bool)
  | number (value : Number)
  | text (value : String)
  | sequence
  | map
  deriving DecidableEq, Repr

/-- What was expected in a place. -/
inductive Expected where
  /-- A natural number below `2 ^ 32`. -/
  | word32
  /-- A natural number below `2 ^ 64`. -/
  | word64
  | text
  /-- The value that carries no information. -/
  | nothing
  /-- A record, by its title. -/
  | record (title : String)
  deriving DecidableEq, Repr

/-- Why a text does not decode. -/
inductive ReadError where
  /-- The text is not well formed, or ends early. -/
  | malformed
  | missingField (name : String)
  | duplicateField (name : String)
  /-- A value of the wrong kind. -/
  | invalidType (found : Found) (expected : Expected)
  /-- A number that is out of the expected range. -/
  | invalidValue (found : Found) (expected : Expected)
  /-- A label that names nothing, and the labels that name something. -/
  | unknownLabel (label : String) (known : List String)
  /-- An array too short for the fields of a record. -/
  | invalidLength (length : Nat) (title : String) (fields : Nat)
  deriving DecidableEq, Repr

/-- A text between the marks that set off names and values. -/
def marked (text : String) : String := "`" ++ text ++ "`"

namespace Found

def numberText : Number → String
  | .natural value => "integer " ++ marked (toString value)
  | .negative magnitude => "integer " ++ marked ("-" ++ toString magnitude)
  | .real negative magnitude =>
      "floating point " ++ marked (Decimal.text negative magnitude)

def message : Found → String
  | .null => "null"
  | .flag value => "boolean " ++ marked (if value then "true" else "false")
  | .number value => numberText value
  | .text value => "string " ++ Text.inspect value
  | .sequence => "sequence"
  | .map => "map"

end Found

namespace Expected

def message : Expected → String
  | .word32 => "u32"
  | .word64 => "u64"
  | .text => "a string"
  | .nothing => "unit"
  | .record title => "struct " ++ title

end Expected

namespace ReadError

/-- The wording of a cause; none for a text that is not well formed. -/
def message? : ReadError → Option String
  | .malformed => none
  | .missingField name => some ("missing field " ++ marked name)
  | .duplicateField name => some ("duplicate field " ++ marked name)
  | .invalidType found expected =>
      some ("invalid type: " ++ found.message ++ ", expected " ++ expected.message)
  | .invalidValue found expected =>
      some ("invalid value: " ++ found.message ++ ", expected " ++ expected.message)
  | .unknownLabel label known =>
      some ("unknown variant " ++ marked label ++ ", expected one of "
        ++ ", ".intercalate (known.map marked))
  | .invalidLength length title fields =>
      some ("invalid length " ++ toString length ++ ", expected "
        ++ (Expected.record title).message ++ " with " ++ toString fields
        ++ " elements")

end ReadError
end AlarmRelay.Json
