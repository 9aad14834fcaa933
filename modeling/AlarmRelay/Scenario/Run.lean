import AlarmRelay.Scenario.Task

/-!
# Running a scenario

Tasks that may go on run one after another, in the order in which they became
able to.  The clock stands still while any task can go on and then jumps to the
next deadline.  After each of its steps the main task lets every other task run
until it waits, and only then the record of the step is closed.
-/

set_option autoImplicit false

namespace AlarmRelay.Scenario

/-- A run in which the steps have not ended by then is stuck. -/
def timeLimit : Instant := .ofMillis 864000000

def mainOrigin : String := "main"

namespace World

/-- The operation of a hub that a frame waits in the lock's queue with. -/
def ticketOf (world : World) : Frame → Option (Nat × OperationId)
  | .operation cell id | .hold cell id _ _ => some (cell, id)
  | .schedule cell loop _ =>
      ((world.hub? cell).bind (fun hub => hub.loopTick? loop)).map fun id =>
        (cell, id)
  | _ => none

/-- Place of a task among those that one step makes able to go on: readers come
in the order of their admission, and at the end of a loop the loop behind it
comes before the stop that waits for it. -/
def wakeRank (world : World) (task : Task) : Nat :=
  match task.stack.head?.bind world.ticketOf with
  | none => 0
  | some (cell, id) =>
      match world.hub? cell with
      | none => 0
      | some hub =>
          match hub.operation? id with
          | some (.awaitExit _) => 1
          | _ => hub.registry.lock.readers.idxOf id

/-- Tasks that wait no longer although nobody has told them yet. -/
def awoken (world : World) (running : TaskId) : List TaskId :=
  let able := (List.range world.tasks.size).filter fun id =>
    id != running && !world.ready.contains id && (world.stepTop id).isSome
  let ranked := able.map fun id =>
    (id, ((world.tasks[id]?).map world.wakeRank).getD 0)
  (ranked.mergeSort (fun a b => a.2 ≤ b.2)).map Prod.fst

/-- Let a task run until it has to wait; whoever it makes able to go on queues
up behind those that already are. -/
def runTask : Nat → World → TaskId → World
  | 0, world, _ => world
  | fuel + 1, world, task =>
      match world.step task with
      | none => world.park task
      | some next =>
          runTask fuel { next with ready := next.ready ++ next.awoken task } task

def timersOf (world : World) (task : Task) : List Timer :=
  match task.ending with
  | some _ => []
  | none => task.stack.filterMap world.timerOf

def nextDeadline (world : World) : Option Instant :=
  (world.tasks.toList.flatMap world.timersOf).foldl (fun earliest timer =>
    match earliest with
    | none => some timer.due
    | some due => some (min due timer.due)) none

/-- Tasks with a deadline that has passed, in the order in which the deadlines
were armed. -/
def dueTasks (world : World) : List TaskId :=
  let due := world.tasks.toList.zipIdx.filterMap fun (task, id) =>
    let armed := (world.timersOf task).filterMap fun timer =>
      if timer.due ≤ world.now then some (timer.armed.getD 0) else none
    armed.min?.map fun first => (id, first)
  (due.mergeSort (fun a b => a.2 ≤ b.2)).map Prod.fst

/-- Whether the current step of the main task is over. -/
def mainAnswer? (world : World) : Option Answer :=
  match (world.tasks[0]?).bind Task.ending with
  | some (.completed answer) => some answer
  | _ => none

/-- Run until the main task's step is over and every other task waits. -/
def settle : Nat → World → Option World
  | 0, _ => none
  | fuel + 1, world =>
      match world.ready with
      | task :: rest => settle fuel (runTask fuel { world with ready := rest } task)
      | [] =>
          match world.mainAnswer? with
          | some _ => some world
          | none =>
              match world.nextDeadline with
              | none => none
              | some due =>
                  if due < timeLimit then
                    let world := { world with now := max world.now due }
                    settle fuel { world with ready := world.dueTasks }
                  else none

/-- Happenings in the order of time and origin; those of one time and origin
stay in the order in which they happened. -/
def inOrder {α : Type} (happenings : List (Happening α)) : List (Happening α) :=
  happenings.reverse.mergeSort fun a b =>
    a.time < b.time || (a.time == b.time && a.origin ≤ b.origin)

def beginMain (world : World) (step : Step) : World :=
  let world := { world with
    tasks := world.tasks.modify 0
      (fun task => { task with stack := [], ending := none })
    ready := [0] }
  let next := world.beginStep 0 [] step
  { next with ready := next.ready ++ next.awoken 0 }

def runSteps (fuel : Nat) : World → List Step → Option (List Element)
  | _, [] => some []
  | world, step :: rest => do
      let world ← settle fuel (world.beginMain step)
      let answer ← world.mainAnswer?
      let element : Element :=
        ⟨world.now.millis, answer, inOrder world.calls, inOrder world.logs⟩
      let elements ← runSteps fuel { world with calls := [], logs := [] } rest
      return element :: elements

def addHub (state : World × List (Except HubError Unit)) (spec : HubSpec) :
    World × List (Except HubError Unit) :=
  let (world, created) := state
  let cell := world.cells.size
  let put := fun (world : World) (hub : Hub) (isHub : Bool) =>
    { world with
      cells := world.cells.push ⟨hub, true⟩
      targets := world.targets.push (some ⟨isHub, cell, none⟩) }
  match spec with
  | .standard => (put world (.create .standard) true, created ++ [.ok ()])
  | .configured millis =>
      match Hub.create? ⟨.ofMillis millis⟩ with
      | .ok (hub, signals) =>
          (put (world.emitAs loopOrigin signals) hub true, created ++ [.ok ()])
      | .error error =>
          ({ world with targets := world.targets.push none },
            created ++ [.error error])
  | .parts millis =>
      (put world (.create ⟨.ofMillis millis⟩) false, created ++ [.ok ()])

def create (script : Script) : World × List (Except HubError Unit) :=
  let listeners := script.listeners.map fun spec =>
    (⟨spec, spec.behaviours, 0⟩ : ListenerCell)
  let world : World :=
    { now := .zero
      clock := script.clock
      cells := #[]
      targets := #[]
      store := .ofAlarms script.alarms
      source := script.source
      listeners := listeners.toArray
      producer := none
      producerLoops := #[]
      ledger := .empty
      level := script.level
      calls := []
      logs := []
      tasks := #[⟨mainOrigin, [], none⟩]
      ready := []
      tags := []
      armed := 0 }
  script.hubs.foldl addHub (world, [])

end World

/-- Number of steps after which a run is given up; no run within the time limit
comes near it. -/
def stepLimit : Nat := 1000000000000

/-- The record of a run, or nothing if its steps do not end within the time
limit. -/
def Script.run (script : Script) : Option Record := do
  let (world, created) := World.create script
  let logs := World.inOrder world.logs
  let elements ←
    World.runSteps stepLimit { world with logs := [] } script.steps
  return ⟨created, logs, elements⟩

end AlarmRelay.Scenario
