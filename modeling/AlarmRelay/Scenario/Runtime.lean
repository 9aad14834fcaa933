import AlarmRelay.Hub.Lifecycle
import AlarmRelay.Scenario

/-!
# A hub whose runtime comes and goes

A scripted run of one hub without listeners, in which starting may happen
outside a runtime and the runtime may be lost.  Loops run only while the script
waits inside the runtime, and the clock stands still.
-/

set_option autoImplicit false

namespace AlarmRelay.Scenario.Runtime

/-- One step of the script. -/
inductive Step where
  | start (inRuntime : Bool)
  | stop
  /-- Let every loop run until it waits. -/
  | settle
  | lose
  deriving DecidableEq, Repr

structure Element where
  answer : Answer
  running : Bool
  logs : List LogRecord

def runLoop (loop : LoopId) : Nat → Hub → Hub × List Signal
  | 0, hub => (hub, [])
  | fuel + 1, hub =>
      match hub.advanceLoop .zero loop with
      | none => (hub, [])
      | some (next, signals) =>
          let (final, more) := runLoop loop fuel next
          (final, signals ++ more)

/-- Steps after which a loop waits: it begins, runs its first tick and idles. -/
def loopSteps : Nat := 8

def runLoops (hub : Hub) : Hub × List Signal :=
  (List.range hub.loops.length).foldl (fun (hub, signals) loop =>
    let (hub, more) := runLoop loop loopSteps hub
    (hub, signals ++ more)) (hub, [])

/-- Stop a hub, letting its loops run until the stop completes. -/
def runStop (hub : Hub) : Hub × List Signal :=
  match hub.stop with
  | (hub, none) => (hub, [])
  | (hub, some id) =>
      let (hub, signals) := runLoops hub
      match hub.advance id with
      | none => (hub, signals)
      | some step => (step.hub, signals ++ step.signals)

def runStep (hub : Hub) : Step → Hub × Answer × List Signal
  | .start inRuntime =>
      match hub.start inRuntime with
      | .error error => (hub, .hubError error, [])
      | .ok (hub, _, signals) => (hub, .text "ok", signals)
  | .stop =>
      let (hub, signals) := runStop hub
      (hub, .nothing, signals)
  | .settle =>
      let (hub, signals) := runLoops hub
      (hub, .nothing, signals)
  | .lose =>
      let (hub, signals) := hub.loseRuntime
      (hub, .nothing, signals)

def runSteps (hub : Hub) : List Step → List Element
  | [] => []
  | step :: rest =>
      let (hub, answer, signals) := runStep hub step
      ⟨answer, hub.isRunning, Signal.logs signals⟩ :: runSteps hub rest

/-- Run a script on a new hub with the standard configuration. -/
def run (steps : List Step) : List Element :=
  runSteps (.create .standard) steps

end AlarmRelay.Scenario.Runtime
