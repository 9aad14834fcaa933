/-!
# Binary floating point magnitudes

The magnitudes of 64-bit floating point numbers with exact arithmetic behind
them: every operation forms the exact quotient of two natural numbers and rounds
it once, to the nearest magnitude, a tie to the even mantissa.
-/

set_option autoImplicit false

namespace AlarmRelay.Decimal

structure Binary where
  mantissa : Nat
  exponent : Int
  deriving DecidableEq, Repr

inductive Magnitude where
  | zero
  | positive (number : Binary)
  | infinite
  deriving DecidableEq, Repr

/-- The nearest whole number to a quotient; a tie goes to the even one. -/
def roundQuotient (numerator denominator : Nat) : Nat :=
  let quotient := numerator / denominator
  let twice := 2 * (numerator % denominator)
  if twice < denominator then quotient
  else if denominator < twice then quotient + 1
  else quotient + quotient % 2

namespace Binary

/-- The least exponent; only mantissas of this exponent may be short. -/
def leastExponent : Int := -1074

def greatestExponent : Int := 971

/-- Whether the next smaller number is only half a step away. -/
def tightBelow (number : Binary) : Bool :=
  number.mantissa == Nat.pow 2 52 && decide (leastExponent < number.exponent)

def numerator (number : Binary) : Nat :=
  number.mantissa * Nat.pow 2 number.exponent.toNat

def denominator (number : Binary) : Nat :=
  Nat.pow 2 (-number.exponent).toNat

end Binary

namespace Magnitude

/-- The exponent that leaves 53 digits of a quotient before the point, or the
least exponent if that is greater. -/
def exponentFor (numerator denominator : Nat) : Int :=
  let estimate : Int := (numerator.log2 : Int) - denominator.log2 - 52
  let short := numerator * Nat.pow 2 (-estimate).toNat
    < Nat.pow 2 52 * denominator * Nat.pow 2 estimate.toNat
  max (if short then estimate - 1 else estimate) Binary.leastExponent

/-- A mantissa of at most 54 digits as a magnitude. -/
def ofParts (mantissa : Nat) (exponent : Int) : Magnitude :=
  if mantissa == 0 then .zero
  else if mantissa == Nat.pow 2 53 then
    if Binary.greatestExponent ≤ exponent then .infinite
    else .positive ⟨Nat.pow 2 52, exponent + 1⟩
  else if Binary.greatestExponent < exponent then .infinite
  else .positive ⟨mantissa, exponent⟩

/-- The magnitude nearest to a quotient. -/
def ofQuotient (numerator denominator : Nat) : Magnitude :=
  if numerator == 0 then .zero
  else
    let exponent := exponentFor numerator denominator
    ofParts
      (roundQuotient (numerator * Nat.pow 2 (-exponent).toNat)
        (denominator * Nat.pow 2 exponent.toNat))
      exponent

def ofNat (value : Nat) : Magnitude := ofQuotient value 1

/-- The product, rounded once. -/
def mul : Magnitude → Magnitude → Magnitude
  | .positive a, .positive b =>
      ofQuotient (a.numerator * b.numerator) (a.denominator * b.denominator)
  | .zero, _ => .zero
  | _, .zero => .zero
  | _, _ => .infinite

/-- The quotient by a positive number, rounded once. -/
def div : Magnitude → Binary → Magnitude
  | .positive a, b =>
      ofQuotient (a.numerator * b.denominator) (a.denominator * b.numerator)
  | .zero, _ => .zero
  | .infinite, _ => .infinite

end Magnitude
end AlarmRelay.Decimal
