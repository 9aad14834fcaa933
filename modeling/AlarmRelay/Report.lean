import AlarmRelay.Failure

/-!
# Reports

What a fan-out and a reconciliation tick tell their caller.  Reports are for
information only; no failure of a listener or of the source is returned.
-/

set_option autoImplicit false

namespace AlarmRelay

structure DispatchReport where
  attempted : Nat
  /-- Calls that ended in an error or a panic. -/
  failed : Nat
  deriving DecidableEq, Repr

namespace DispatchReport

def empty : DispatchReport := ⟨0, 0⟩

instance : Inhabited DispatchReport := ⟨empty⟩

def delivered (report : DispatchReport) : Nat :=
  report.attempted - report.failed

def record (report : DispatchReport) (outcome : CallOutcome) : DispatchReport :=
  match outcome.error? with
  | none => ⟨report.attempted + 1, report.failed⟩
  | some _ => ⟨report.attempted + 1, report.failed + 1⟩

end DispatchReport

inductive TickOutcome where
  /-- No listener was registered; the source was not read. -/
  | skipped
  /-- A snapshot of so many alarms was fanned out. -/
  | delivered (alarms : Nat) (report : DispatchReport)
  /-- The source failed or panicked; nothing was delivered. -/
  | failed (message : String)
  deriving DecidableEq, Repr

def TickOutcome.label : TickOutcome → String
  | .skipped => "skipped"
  | .delivered _ _ => "delivered"
  | .failed _ => "failed"

end AlarmRelay
