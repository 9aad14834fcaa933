/-!
# Durations

Spans of time in nanoseconds.  An instant is the span since a clock began, so
instants and durations share one type.  The written form picks the largest unit
that leaves a whole part and drops trailing zeros of the fraction.
-/

set_option autoImplicit false

namespace AlarmRelay

structure Duration where
  nanos : Nat
  deriving DecidableEq, Repr, Inhabited

/-- A point in time: the span since the clock began. -/
abbrev Instant := Duration

namespace Duration

def zero : Duration := ⟨0⟩

def ofMillis (count : Nat) : Duration := ⟨count * 1000000⟩

/-- A span of seconds and nanoseconds; the latter may exceed one second. -/
def ofParts (seconds nanoseconds : Nat) : Duration :=
  ⟨seconds * 1000000000 + nanoseconds⟩

def millis (span : Duration) : Nat := span.nanos / 1000000

def isZero (span : Duration) : Bool := span.nanos == 0

def repeated (count : Nat) (span : Duration) : Duration := ⟨count * span.nanos⟩

instance : Add Duration := ⟨fun a b => ⟨a.nanos + b.nanos⟩⟩
instance : LE Duration := ⟨fun a b => a.nanos ≤ b.nanos⟩
instance : LT Duration := ⟨fun a b => a.nanos < b.nanos⟩
instance (a b : Duration) : Decidable (a ≤ b) := Nat.decLe a.nanos b.nanos
instance (a b : Duration) : Decidable (a < b) := Nat.decLt a.nanos b.nanos
instance : Max Duration := ⟨fun a b => if a ≤ b then b else a⟩
instance : Min Duration := ⟨fun a b => if a ≤ b then a else b⟩

/-- Whole milliseconds as a 64-bit word, the form in which logs show them. -/
def millisWord (span : Duration) : Nat := span.millis % Nat.pow 2 64

/-- The digits of a fraction with `places` decimal places, without the zeros
that end it. -/
def fractionDigits (places fraction : Nat) : List Char :=
  let digits := Nat.toDigits 10 fraction
  let padded := List.replicate (places - digits.length) '0' ++ digits
  (padded.reverse.dropWhile (fun digit => digit == '0')).reverse

/-- A value given in thousandths, millionths or billionths of its unit, as a
decimal number without trailing zeros. -/
def decimalText (places value : Nat) : String :=
  let whole := toString (value / Nat.pow 10 places)
  match fractionDigits places (value % Nat.pow 10 places) with
  | [] => whole
  | digits => whole ++ "." ++ String.ofList digits

/-- The span in the largest of `s`, `ms`, `µs` and `ns` that it fills. -/
def text (span : Duration) : String :=
  if span.nanos ≥ 1000000000 then decimalText 9 span.nanos ++ "s"
  else if span.nanos ≥ 1000000 then decimalText 6 span.nanos ++ "ms"
  else if span.nanos ≥ 1000 then decimalText 3 span.nanos ++ "µs"
  else decimalText 0 span.nanos ++ "ns"

end Duration
end AlarmRelay
