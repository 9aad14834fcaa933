import AlarmRelay.Text.Digit
import AlarmRelay.Toml.Value

/-!
# Unquoted scalars

Flags, numbers, dates and times are words: what stands between blanks, commas,
brackets, comments and line ends.  A word is read as a whole.  Integers have 64
bits with a sign, and an underscore may stand between two digits.
-/

set_option autoImplicit false

namespace AlarmRelay.Toml

open AlarmRelay.Decimal AlarmRelay.Text

/-- Digits without the underscores between them; nothing if the word is empty,
holds anything else, or has an underscore in another place. -/
def plainDigits? (isDigit : Char → Bool) : List Char → Option (List Char)
  | [] => none
  | [c] => if isDigit c then some [c] else none
  | c :: '_' :: rest =>
      if isDigit c then (plainDigits? isDigit rest).map (c :: ·) else none
  | c :: rest =>
      if isDigit c then (plainDigits? isDigit rest).map (c :: ·) else none

/-- Decimal digits that do not begin with a needless zero. -/
def wholeDigits? (word : List Char) : Option (List Char) := do
  let digits ← plainDigits? Char.isDigit word
  match digits with
  | '0' :: _ :: _ => none
  | _ => some digits

def splitSign : List Char → Bool × List Char
  | '-' :: rest => (true, rest)
  | '+' :: rest => (false, rest)
  | rest => (false, rest)

/-- An integer of a base that a mark announces. -/
def markedInteger? (base : Nat) (isDigit : Char → Bool) (word : List Char) :
    Option Int := do
  let digits ← plainDigits? isDigit word
  let value := valueIn base digits
  if value < Nat.pow 2 63 then some value else none

def decimalInteger? (word : List Char) : Option Int := do
  let (negative, word) := splitSign word
  let digits ← wholeDigits? word
  let value := valueIn 10 digits
  if negative then
    if value ≤ Nat.pow 2 63 then some (-(value : Int)) else none
  else if value < Nat.pow 2 63 then some value
  else none

def integer? : List Char → Option Int
  | '0' :: 'x' :: word => markedInteger? 16 isHexDigit word
  | '0' :: 'o' :: word => markedInteger? 8 (fun c => '0' ≤ c && c ≤ '7') word
  | '0' :: 'b' :: word => markedInteger? 2 (fun c => c == '0' || c == '1') word
  | word => decimalInteger? word

/-- The magnitude nearest to a decimal number.  Numbers far outside the range are
settled by the place of their leading digit. -/
def nearestTo (significand : Nat) (exponent : Int) : Magnitude :=
  let point : Int := (Nat.toDigits 10 significand).length + exponent
  if significand == 0 then .zero
  else if 400 < point then .infinite
  else if point < -400 then .zero
  else
    .ofQuotient (significand * Nat.pow 10 exponent.toNat)
      (Nat.pow 10 (-exponent).toNat)

def isExponentMark (c : Char) : Bool := c == 'e' || c == 'E'

/-- The exponent of a real number; the word is empty or begins with its mark. -/
def exponent? : List Char → Option Int
  | [] => some 0
  | _ :: word => do
      let (negative, word) := splitSign word
      let digits ← plainDigits? Char.isDigit word
      let value : Int := valueIn 10 digits
      return if negative then -value else value

/-- A real number written with digits.  It has a fraction, an exponent, or both,
and is not beyond the range on the positive side. -/
def digitReal? (word : List Char) : Option Value := do
  let (negative, word) := splitSign word
  let mantissa := word.takeWhile (fun c => !isExponentMark c)
  let tail := word.dropWhile (fun c => !isExponentMark c)
  let whole := mantissa.takeWhile (· != '.')
  let wholeDigits ← wholeDigits? whole
  let fractionDigits ← match mantissa.dropWhile (· != '.') with
    | [] => if tail.isEmpty then none else some []
    | _ :: fraction => plainDigits? Char.isDigit fraction
  let exponent ← exponent? tail
  let magnitude := nearestTo (valueIn 10 (wholeDigits ++ fractionDigits))
    (exponent - fractionDigits.length)
  if magnitude = .infinite ∧ !negative then none
  else some (.real negative magnitude)

def real? (word : List Char) : Option Value :=
  let (negative, unsigned) := splitSign word
  if unsigned == ['i', 'n', 'f'] then some (.real negative .infinite)
  else if unsigned == ['n', 'a', 'n'] then some .notANumber
  else digitReal? word

/-- Two digits and the text behind them, if they write a number in a range. -/
def twoDigits? (low high : Nat) : List Char → Option (Nat × List Char)
  | a :: b :: rest =>
      let value := valueIn 10 [a, b]
      if a.isDigit && b.isDigit && low ≤ value && value ≤ high then
        some (value, rest)
      else none
  | _ => none

def behind? (mark : Char) : List Char → Option (List Char)
  | c :: rest => if c == mark then some rest else none
  | [] => none

def daysIn (year month : Nat) : Nat :=
  let leap := year % 4 == 0 && (year % 100 != 0 || year % 400 == 0)
  if month == 2 then (if leap then 29 else 28)
  else if [4, 6, 9, 11].contains month then 30
  else 31

def scanDate (word : List Char) : Option (Date × List Char) := do
  let (century, rest) ← twoDigits? 0 99 word
  let (short, rest) ← twoDigits? 0 99 rest
  let year := century * 100 + short
  let rest ← behind? '-' rest
  let (month, rest) ← twoDigits? 1 12 rest
  let rest ← behind? '-' rest
  let (day, rest) ← twoDigits? 1 (daysIn year month) rest
  return (⟨year, month, day⟩, rest)

/-- Digits behind a point, if there are any, and the text behind them. -/
def scanSecondFraction : List Char → List Char × List Char
  | '.' :: c :: rest =>
      if c.isDigit then
        (c :: rest.takeWhile Char.isDigit, rest.dropWhile Char.isDigit)
      else ([], '.' :: c :: rest)
  | rest => ([], rest)

/-- A time of day and the text behind it. -/
def scanTime (word : List Char) : Option (Time × List Char) := do
  let (hour, rest) ← twoDigits? 0 23 word
  let rest ← behind? ':' rest
  let (minute, rest) ← twoDigits? 0 59 rest
  let rest ← behind? ':' rest
  let (second, rest) ← twoDigits? 0 60 rest
  let (fraction, rest) := scanSecondFraction rest
  return (⟨hour, minute, second, fraction⟩, rest)

/-- A whole word as an optional offset. -/
def offset? : List Char → Option (Option Offset)
  | [] => some none
  | ['Z'] => some (some ⟨0⟩)
  | ['z'] => some (some ⟨0⟩)
  | sign :: rest => do
      let (hours, rest) ← twoDigits? 0 23 rest
      let rest ← behind? ':' rest
      let (minutes, rest) ← twoDigits? 0 59 rest
      let distance : Int := hours * 60 + minutes
      if !rest.isEmpty then none
      else if sign == '+' then some (some ⟨distance⟩)
      else if sign == '-' then some (some ⟨-distance⟩)
      else none

/-- A whole word as the time that goes with a date. -/
def timeOf? (date : Date) (word : List Char) : Option Moment := do
  let (time, rest) ← scanTime word
  let offset ← offset? rest
  return .dateTime date time offset

/-- A word that begins with a date, and the text behind the word.  A time may
follow the date behind a letter, or as a word of its own behind one space. -/
def dated? (word : List Char) (next : Option (List Char)) :
    Option (Moment × Bool) := do
  let (date, rest) ← scanDate word
  match rest with
  | [] =>
      match next.bind (timeOf? date) with
      | some moment => some (moment, true)
      | none => some (.date date, false)
  | c :: rest =>
      if c == 'T' || c == 't' then
        (timeOf? date rest).map (fun moment => (moment, false))
      else none

def time? (word : List Char) : Option Moment := do
  let (time, rest) ← scanTime word
  if rest.isEmpty then some (.time time) else none

/-- The value of a word that is complete by itself. -/
def scalar? (word : List Char) : Option Value :=
  if word == ['t', 'r', 'u', 'e'] then some (.flag true)
  else if word == ['f', 'a', 'l', 's', 'e'] then some (.flag false)
  else
    ((time? word).map Value.moment).orElse fun _ =>
      ((integer? word).map Value.integer).orElse fun _ => real? word

/-- Whether a character ends a word. -/
def endsWord (c : Char) : Bool :=
  [' ', '\t', '\n', '\r', ',', ']', '\x7d', '#'].contains c

/-- The word at the head of a text and the text behind it. -/
def spanWord (input : List Char) : List Char × List Char :=
  (input.takeWhile (fun c => !endsWord c), input.dropWhile (fun c => !endsWord c))

def scanScalar (input : List Char) : Option (Value × List Char) :=
  let (word, rest) := spanWord input
  let next := (behind? ' ' rest).map spanWord
  match dated? word (next.map Prod.fst) with
  | some (moment, true) => some (.moment moment, (next.map Prod.snd).getD rest)
  | some (moment, false) => some (.moment moment, rest)
  | none => (scalar? word).map (fun value => (value, rest))

end AlarmRelay.Toml
