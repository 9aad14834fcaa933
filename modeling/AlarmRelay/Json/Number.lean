import AlarmRelay.Decimal.Binary
import AlarmRelay.Json.Token

/-!
# Values of numbers

A literal without fraction and exponent is an integer if it fits one of the two
64-bit integer types; every other literal is a floating point number.  Its
digits are gathered in a 64-bit significand as long as they fit, and the
significand is scaled by powers of ten with one rounding a step.
-/

set_option autoImplicit false

namespace AlarmRelay.Json

open AlarmRelay.Decimal

inductive Number where
  /-- A natural number below `2 ^ 64`. -/
  | natural (value : Nat)
  /-- A negative integer of at least `-2 ^ 63`. -/
  | negative (magnitude : Nat)
  | real (negative : Bool) (magnitude : Magnitude)
  deriving DecidableEq, Repr

/-- Append digits to a significand while it stays below `2 ^ 64`; the digits that
no longer fit are left. -/
def gather (significand : Nat) : List Char → Nat × List Char
  | [] => (significand, [])
  | digit :: rest =>
      let next := significand * 10 + Text.digitValue digit
      if next < Nat.pow 2 64 then gather next rest else (significand, digit :: rest)

/-- The largest power of ten that one scaling step takes. -/
def scalingStep : Nat := 308

/-- A power of ten, rounded. -/
def powerOfTen (exponent : Nat) : Magnitude := .ofNat (Nat.pow 10 exponent)

/-- Divide by a power of ten, at most `scalingStep` places a time.  A significand
of 64 bits is nothing after two full steps. -/
def scaleDown : Nat → Magnitude → Nat → Magnitude
  | 0, _, _ => .zero
  | steps + 1, value, places =>
      match powerOfTen (min places scalingStep) with
      | .positive power =>
          if places ≤ scalingStep then value.div power
          else scaleDown steps (value.div power) (places - scalingStep)
      | _ => value

/-- A significand scaled by a power of ten; nothing if that is out of range. -/
def scale? (significand : Nat) (exponent : Int) : Option Magnitude :=
  let value := Magnitude.ofNat significand
  if value = .zero then some .zero
  else if exponent < 0 then some (scaleDown 3 value (-exponent).toNat)
  else if scalingStep < exponent.toNat then none
  else
    match value.mul (powerOfTen exponent.toNat) with
    | .infinite => none
    | scaled => some scaled

def leastScale : Int := -2147483648

def greatestScale : Int := 2147483647

/-- An exponent kept within its bounds. -/
def clampScale (exponent : Int) : Int :=
  max leastScale (min greatestScale exponent)

/-- The number that digits write; nothing if they exceed the bounds of an
exponent. -/
def exponentValue? (digits : List Char) : Option Nat :=
  let value := Text.valueIn 10 digits
  if (value : Int) ≤ greatestScale then some value else none

/-- The magnitude of a significand with the exponent written behind it. -/
def applyExponent? (significand : Nat) (start : Int) :
    Option (Bool × List Char) → Option Magnitude
  | none => scale? significand start
  | some (negative, digits) =>
      match exponentValue? digits with
      | some exponent =>
          scale? significand
            (clampScale (if negative then start - exponent else start + exponent))
      | none => if significand != 0 && !negative then none else some .zero

namespace NumberLiteral

/-- The magnitude of a literal read as a floating point number. -/
def magnitude? (literal : NumberLiteral) : Option Magnitude :=
  let (whole, surplus) := gather 0 literal.whole
  let (significand, unread) := gather whole (literal.fraction.getD [])
  let places : Int := (literal.fraction.getD []).length - unread.length
  applyExponent? significand (surplus.length - places) literal.exponent

/-- The value of a literal; nothing if it is out of range. -/
def value? (literal : NumberLiteral) : Option Number :=
  let (whole, surplus) := gather 0 literal.whole
  if literal.fraction.isSome || literal.exponent.isSome || !surplus.isEmpty then
    literal.magnitude?.map (.real literal.negative)
  else if !literal.negative then some (.natural whole)
  else if 0 < whole ∧ whole ≤ Nat.pow 2 63 then some (.negative whole)
  else some (.real true (.ofNat whole))

end NumberLiteral
end AlarmRelay.Json
