import AlarmRelay.Decimal.Binary

/-!
# TOML values

The values that a configuration text can hold.  A value does not remember how it
was spelled: a table is its members, whether they were written below a header,
between braces or behind dotted keys.
-/

set_option autoImplicit false

namespace AlarmRelay.Toml

open AlarmRelay.Decimal

structure Date where
  year : Nat
  month : Nat
  day : Nat
  deriving DecidableEq, Repr

structure Time where
  hour : Nat
  minute : Nat
  second : Nat
  /-- Digits behind the point of the seconds. -/
  fraction : List Char
  deriving DecidableEq, Repr

/-- The distance of a time from universal time, in minutes. -/
structure Offset where
  minutes : Int
  deriving DecidableEq, Repr

/-- A date, a time, or both with an optional offset. -/
inductive Moment where
  | date (date : Date)
  | time (time : Time)
  | dateTime (date : Date) (time : Time) (offset : Option Offset)
  deriving DecidableEq, Repr

inductive Value where
  | text (value : String)
  | integer (value : Int)
  | real (negative : Bool) (magnitude : Magnitude)
  | notANumber
  | flag (value : Bool)
  | moment (value : Moment)
  | array (items : List Value)
  | table (members : List (String × Value))

/-- Members of a table in the order of their first mention. -/
abbrev Members := List (String × Value)

end AlarmRelay.Toml
