import AlarmRelay.Hub

/-!
# Starting and stopping a hub

At most one loop of a hub is owned at a time.  A loop started while an earlier
one is still finishing waits for it, so scheduled ticks of one hub never
overlap.  Stopping takes the owned loop out of the lifecycle, asks it to shut
down and waits for its end.
-/

set_option autoImplicit false

namespace AlarmRelay.Hub

/-- Whether the owned loop is not over. -/
def isRunning (hub : Hub) : Bool :=
  match hub.task with
  | none => false
  | some loop => !hub.loopFinished loop

def spawnLoop (hub : Hub) (previous : Option LoopId) : Hub × LoopId :=
  ({ hub with loops := hub.loops ++ [SnapshotLoop.spawned previous] },
    hub.loops.length)

def cancelLoop (hub : Hub) (loop : LoopId) : Hub :=
  hub.updateLoop loop SnapshotLoop.cancel

/-- Start the scheduler.  A running hub is left as it is; otherwise a runtime is
needed, and the new loop is queued behind the one spawned last. -/
def start (hub : Hub) (inRuntime : Bool) :
    Except HubError (Hub × Option LoopId × List Signal) :=
  if hub.isRunning then .ok (hub, none, [.log .hubAlreadyStarted])
  else if !inRuntime then .error .noRuntime
  else
    let (spawned, loop) := hub.spawnLoop hub.latest
    .ok ({ spawned with task := some loop, latest := some loop }, some loop,
      [.log (.hubStarted hub.interval)])

/-- Begin to stop the scheduler: the owned loop is taken out and cancelled, and
the operation waits for its end.  Without an owned loop there is nothing to do. -/
def stop (hub : Hub) : Hub × Option OperationId :=
  match hub.task with
  | none => (hub, none)
  | some loop =>
      let (hub, id) := hub.disown.begin (.awaitExit loop)
      (hub, some id)

def finishLoop (hub : Hub) (loop : LoopId) (result : LoopEnd) :
    Hub × List Signal :=
  (hub.updateLoop loop (SnapshotLoop.enter (.finished result))).reclaim

/-- Take the next step of a loop, if it can take one at `now` without an answer
from outside. -/
def advanceLoop (hub : Hub) (now : Instant) (id : LoopId) :
    Option (Hub × List Signal) :=
  match hub.loops[id]? with
  | none => none
  | some loop =>
      match loop.phase with
      | .waiting previous =>
          if (previous.map hub.loopFinished).getD true then
            if hub.interval.isZero then some (hub.finishLoop id .panicked)
            else
              some (hub.updateLoop id (SnapshotLoop.enter (.idle now 0)),
                [.log (.schedulerStarted hub.interval)])
          else none
      | .idle origin ticks =>
          if loop.cancelled then
            let (hub, signals) := hub.finishLoop id .exited
            some (hub, .log .schedulerStopped :: signals)
          else if SnapshotLoop.dueAt origin hub.interval ticks ≤ now then
            let (hub, operation) := hub.begin (.tick .checking)
            some (hub.updateLoop id
              (SnapshotLoop.enter (.ticking origin ticks operation)), [])
          else none
      | .ticking _ _ operation =>
          (hub.advance operation).map fun step => (step.hub, step.signals)
      | .finished _ => none

/-- The instant at which an idle loop has something to do. -/
def loopDue? (hub : Hub) (id : LoopId) : Option Instant :=
  match (hub.loops[id]?).map SnapshotLoop.phase with
  | some (.idle origin ticks) =>
      some (SnapshotLoop.dueAt origin hub.interval ticks)
  | _ => none

def loopTick? (hub : Hub) (id : LoopId) : Option OperationId :=
  match (hub.loops[id]?).map SnapshotLoop.phase with
  | some (.ticking _ _ operation) => some operation
  | _ => none

/-- Kill one loop: the tick it is inside of is dropped where it stands. -/
def killLoop (hub : Hub) (id : LoopId) : Hub × List Signal :=
  if hub.loopFinished id then (hub, [])
  else
    let (hub, dropped) := match hub.loopTick? id with
      | none => (hub, [])
      | some operation => hub.abandon operation
    let (hub, signals) := hub.finishLoop id .killed
    (hub, dropped ++ signals)

/-- Lose the runtime: every loop that is not over is killed. -/
def loseRuntime (hub : Hub) : Hub × List Signal :=
  (List.range hub.loops.length).foldl
    (fun (hub, signals) id =>
      let (hub, more) := hub.killLoop id
      (hub, signals ++ more))
    (hub, [])

def close (hub : Hub) : Hub × List Signal :=
  { hub with closed := true }.reclaim

def inspectScheduler (hub : Hub) : String :=
  "SnapshotScheduler \x7b interval: " ++ hub.interval.text ++ ", .. \x7d"

def inspectDispatcher (hub : Hub) : String :=
  "EventDispatcher \x7b registry: " ++ hub.registry.inspect ++ " \x7d"

def inspect (hub : Hub) : String :=
  "AlarmHub \x7b registry: " ++ hub.registry.inspect ++ ", scheduler: "
    ++ hub.inspectScheduler ++ ", running: " ++ toString hub.isRunning ++ " \x7d"

end AlarmRelay.Hub
