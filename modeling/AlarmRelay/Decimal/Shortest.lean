import AlarmRelay.Decimal.Binary

/-!
# Shortest decimals

The fewest decimal digits that read back as a given binary number, and of those
the nearest to it.  All arithmetic is exact: the numbers that round to
`mantissa * 2 ^ exponent` fill an interval whose ends belong to it when the
mantissa is even.
-/

set_option autoImplicit false

namespace AlarmRelay.Decimal

structure Digits where
  digits : Nat
  exponent : Int
  deriving DecidableEq, Repr

/-- Order of `a * 2 ^ p` and `b * 10 ^ q`. -/
def compareScaled (a : Nat) (p : Int) (b : Nat) (q : Int) : Ordering :=
  let left := a * Nat.pow 2 p.toNat * Nat.pow 10 (-q).toNat
  let right := b * Nat.pow 10 q.toNat * Nat.pow 2 (-p).toNat
  compare left right

/-- Whether a decimal reads back as the given number. -/
def readsBack (number : Binary) (decimal : Digits) : Bool :=
  let quarter := number.exponent - 2
  let low := 4 * number.mantissa - (if number.tightBelow then 1 else 2)
  let high := 4 * number.mantissa + 2
  let inside := fun (order : Ordering) (limit : Ordering) =>
    order == limit || (order == .eq && number.mantissa % 2 == 0)
  inside (compareScaled low quarter decimal.digits decimal.exponent) .lt
    && inside (compareScaled high quarter decimal.digits decimal.exponent) .gt

/-- The whole number of steps `10 ^ step` below the given number. -/
def floorAt (number : Binary) (step : Int) : Nat :=
  number.numerator * Nat.pow 10 (-step).toNat
    / (number.denominator * Nat.pow 10 step.toNat)

/-- The nearer of two neighbouring steps around the given number; a tie goes to
the even one. -/
def nearerAt (number : Binary) (step : Int) (low : Nat) : Nat :=
  match compareScaled (2 * number.mantissa) number.exponent (2 * low + 1) step with
  | .lt => low
  | .gt => low + 1
  | .eq => if low % 2 == 0 then low else low + 1

/-- The positive step of this size that reads back, the nearer one if two do. -/
def stepAt? (number : Binary) (step : Int) : Option Digits :=
  let low := floorAt number step
  let lowFits := low != 0 && readsBack number ⟨low, step⟩
  let highFits := readsBack number ⟨low + 1, step⟩
  if lowFits && highFits then some ⟨nearerAt number step low, step⟩
  else if lowFits then some ⟨low, step⟩
  else if highFits then some ⟨low + 1, step⟩
  else none

/-- Search from coarse steps to fine ones. -/
def search (number : Binary) : Nat → Int → Digits
  | 0, step => ⟨floorAt number step, step⟩
  | fuel + 1, step =>
      (stepAt? number step).getD (search number fuel (step - 1))

/-- The shortest decimal that reads back as the given number.  The search begins
one step above the number's leading digit; seventeen digits always suffice. -/
def shortest (number : Binary) : Digits :=
  let magnitude := (Nat.log2 number.mantissa : Int) + number.exponent
  search number 24 (magnitude * 30103 / 100000 + 2)

end AlarmRelay.Decimal
