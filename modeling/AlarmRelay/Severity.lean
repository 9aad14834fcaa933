/-!
# Alarm severities

Seven severities, ordered from least to most severe, each with one lowercase
label (used in logs, metrics and every written form) and one capitalised name.
-/

set_option autoImplicit false

namespace AlarmRelay

/-- Alarm severity, listed from least to most severe. -/
inductive Severity where
  | indeterminate
  | cleared
  | normal
  | warning
  | minor
  | major
  | critical
  deriving DecidableEq, Repr

namespace Severity

/-- The severity of an alarm about which nothing is known. -/
instance : Inhabited Severity := ⟨.indeterminate⟩

def all : List Severity :=
  [.indeterminate, .cleared, .normal, .warning, .minor, .major, .critical]

/-- Position on the scale; `0` is the least severe. -/
def rank : Severity → Nat
  | .indeterminate => 0
  | .cleared => 1
  | .normal => 2
  | .warning => 3
  | .minor => 4
  | .major => 5
  | .critical => 6

/-- Lowercase label used in logs, metrics and written records. -/
def label : Severity → String
  | .indeterminate => "indeterminate"
  | .cleared => "cleared"
  | .normal => "normal"
  | .warning => "warning"
  | .minor => "minor"
  | .major => "major"
  | .critical => "critical"

/-- Capitalised name, shown where a value is printed for inspection. -/
def displayName : Severity → String
  | .indeterminate => "Indeterminate"
  | .cleared => "Cleared"
  | .normal => "Normal"
  | .warning => "Warning"
  | .minor => "Minor"
  | .major => "Major"
  | .critical => "Critical"

def ofLabel? (text : String) : Option Severity :=
  all.find? (fun severity => severity.label == text)

instance : LE Severity := ⟨fun a b => a.rank ≤ b.rank⟩
instance : LT Severity := ⟨fun a b => a.rank < b.rank⟩

instance (a b : Severity) : Decidable (a ≤ b) := Nat.decLe a.rank b.rank
instance (a b : Severity) : Decidable (a < b) := Nat.decLt a.rank b.rank

instance : Ord Severity := ⟨fun a b => compare a.rank b.rank⟩

/-- The more severe of two; the second when they are equal. -/
instance : Max Severity := ⟨fun a b => if b < a then a else b⟩

/-- The less severe of two; the first when they are equal. -/
instance : Min Severity := ⟨fun a b => if b < a then b else a⟩

theorem ofLabel?_label (severity : Severity) :
    ofLabel? severity.label = some severity := by
  cases severity <;> decide

end Severity
end AlarmRelay
