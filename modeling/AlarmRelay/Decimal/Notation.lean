import AlarmRelay.Decimal.Shortest

/-!
# Decimal notation

How a floating point number is written: positionally, with a digit on either
side of the point, if the point falls within sixteen digits of the first digit
or at most five before it; with an exponent otherwise.
-/

set_option autoImplicit false

namespace AlarmRelay.Decimal

def zeros (count : Nat) : String :=
  String.ofList (List.replicate count '0')

/-- The exponent of the leading digit in scientific notation. -/
def scientific (digits : List Char) (exponent : Int) : String :=
  match digits with
  | [] => ""
  | [digit] => String.ofList [digit, 'e'] ++ toString exponent
  | digit :: rest =>
      String.ofList (digit :: '.' :: rest) ++ "e" ++ toString exponent

namespace Digits

def text (decimal : Digits) : String :=
  let digits := Nat.toDigits 10 decimal.digits
  let point : Int := digits.length + decimal.exponent
  if 0 ≤ decimal.exponent ∧ point ≤ 16 then
    String.ofList digits ++ zeros decimal.exponent.toNat ++ ".0"
  else if 0 < point ∧ point ≤ 16 then
    String.ofList (digits.take point.toNat) ++ "."
      ++ String.ofList (digits.drop point.toNat)
  else if -5 < point ∧ point ≤ 0 then
    "0." ++ zeros (-point).toNat ++ String.ofList digits
  else scientific digits (point - 1)

end Digits

def text (negative : Bool) (magnitude : Magnitude) : String :=
  let unsigned := match magnitude with
    | .zero => "0.0"
    | .positive number => (shortest number).text
    | .infinite => "inf"
  if negative then "-" ++ unsigned else unsigned

end AlarmRelay.Decimal
