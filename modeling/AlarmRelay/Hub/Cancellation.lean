import AlarmRelay.Hub.Schedule

/-!
# Cancellations

A hub and its counterpart in which one loop has not been asked to shut down, or
has been, and what both show along a run.
-/

set_option autoImplicit false

namespace AlarmRelay

/-- The loop with its cancellation made or taken back. -/
def SnapshotLoop.asked (cancelled : Bool) (loop : SnapshotLoop) : SnapshotLoop :=
  { loop with cancelled := cancelled }

namespace Hub

/-- The hub with the cancellation of one loop made or taken back. -/
def withAsked (hub : Hub) (loop : LoopId) (cancelled : Bool) : Hub :=
  hub.updateLoop loop (SnapshotLoop.asked cancelled)

end Hub

/-- The step with the cancellation of one loop made or taken back. -/
def Progress.withAsked (step : Progress) (loop : LoopId) (cancelled : Bool) :
    Progress :=
  { step with hub := step.hub.withAsked loop cancelled }

namespace Hub

/-- Everything that is logged and measured along a run, in order. -/
def signals (hub : Hub) (timeline : Timeline) : List Signal :=
  hub.observe (fun _ _ step => step.signals) timeline

/-- Whether a loop is inside of one tick at every event of a run. -/
def staysInside (hub : Hub) (loop : LoopId) (tick : OperationId) :
    Timeline → Bool
  | [] => true
  | (now, event) :: rest =>
      hub.loopTick? loop == some tick &&
        match hub.react now event with
        | none => true
        | some step => step.hub.staysInside loop tick rest

end Hub
end AlarmRelay
