import AlarmRelay.Scenario.World

/-!
# Beginning a step

What happens the moment a step begins: it is answered at once, or frames are put
on the stack of its task that answer it later.
-/

set_option autoImplicit false

namespace AlarmRelay.Scenario

def loopOrigin : String := "loop"

/-- The name of a request that only the parts of a hub understand. -/
def HubRequest.partsOnly? : HubRequest → Option String
  | .isEmpty => some "is_empty"
  | .names => some "names"
  | .interval => some "interval"
  | .cancel => some "cancel"
  | .hold _ => some "hold"
  | .deliver _ _ => some "deliver"
  | .unknown name => some name
  | _ => none

/-- What a reply of an operation answers to a step. -/
def Answer.ofReply : Reply → Answer
  | .flag value => .flag value
  | .count value => .number value
  | .listeners handles => .texts (handles.map Listener.name)
  | .report result => .report result
  | .tick result => .tick result
  | .stopped => .nothing

/-- What a store answers to a step. -/
def Answer.ofStore : StoreAnswer → Answer
  | .record held => .alarm held
  | .count records => .number records
  | .flag value => .flag value
  | .records listed => .alarms listed

namespace World

/-- Begin an operation of a hub and await it. -/
def await (world : World) (task : TaskId) (cell : Nat) (hub : Hub)
    (operation : Operation) (stack : List Frame) : World :=
  let (hub, id) := hub.begin operation
  (world.setHub cell hub).setStack task (.operation cell id :: stack)

/-- Announce an event to a hub and await its fan-out. -/
def announce (world : World) (task : TaskId) (cell : Nat) (hub : Hub)
    (event : AlarmEvent) (stack : List Frame) : World :=
  let (hub, id, signals) := hub.publish event
  ((world.setHub cell hub).emit task signals).setStack task
    (.operation cell id :: stack)

def spawnLoop (world : World) (cell : Nat) (loop : LoopId) : World :=
  (world.spawn loopOrigin [.schedule cell loop none]).1

/-- Put what a step may address under an index. -/
def setTarget (world : World) (index : Nat) (target : Option Target) : World :=
  { world with targets := world.targets.modify index (fun _ => target) }

/-- Start a hub, or a loop over its parts. -/
def beginStart (world : World) (task : TaskId) (index : Nat) (target : Target)
    (hub : Hub) (stack : List Frame) : World :=
  let ok := Answer.text "ok"
  if target.isHub then
    match hub.start true with
    | .error error => world.give task (.hubError error) stack
    | .ok (hub, loop?, signals) =>
        let world := (world.setHub target.cell hub).emit task signals
        let world := match loop? with
          | none => world
          | some loop => world.spawnLoop target.cell loop
        world.give task ok stack
  else
    let (hub, loop) := hub.spawnLoop none
    let world := (world.setHub target.cell hub).spawnLoop target.cell loop
    (world.setTarget index (some { target with run := some loop })).give task ok
      stack

/-- Stop a hub, or the loop over its parts. -/
def beginStop (world : World) (task : TaskId) (index : Nat) (target : Target)
    (hub : Hub) (stack : List Frame) : World :=
  if target.isHub then
    match hub.stop with
    | (_, none) => world.give task .nothing stack
    | (hub, some id) =>
        (world.setHub target.cell hub).setStack task
          (.operation target.cell id :: stack)
  else
    match target.run with
    | none => world.give task (.text "not_started") stack
    | some loop =>
        let world := world.setHub target.cell (hub.cancelLoop loop)
        (world.setTarget index (some { target with run := none })).setStack task
          (.awaitLoop target.cell loop :: stack)

/-- Begin a request to a hub or its parts. -/
def beginRequest (world : World) (task : TaskId) (index : Nat)
    (request : HubRequest) (stack : List Frame) : World :=
  match (world.targets[index]?).join with
  | none =>
      match request with
      | .release => world.give task (.flag false) stack
      | _ => world.give task .noHub stack
  | some target =>
  match world.hub? target.cell with
  | none => world.give task .noHub stack
  | some hub =>
  let await := fun operation => world.await task target.cell hub operation stack
  let answer := fun answer => world.give task answer stack
  match (if target.isHub then request.partsOnly? else none) with
  | some name => answer (.unknownStep name)
  | none =>
  match request with
  | .subscribe key =>
      match world.listener? key with
      | none => answer .nothing
      | some listener => await (.add listener)
  | .unsubscribe key =>
      match world.listener? key with
      | none => answer .nothing
      | some listener => await (.remove listener)
  | .count => await .count
  | .publish event => world.announce task target.cell hub event stack
  | .snapshot => await (.tick .checking)
  | .inspect =>
      if target.isHub then answer (.text hub.inspect)
      else answer (.texts
        [hub.registry.inspect, hub.inspectDispatcher, hub.inspectScheduler])
  | .start => world.beginStart task index target hub stack
  | .stop => world.beginStop task index target hub stack
  | .running =>
      if target.isHub then answer (.flag hub.isRunning)
      else answer (.flag (target.run.any (fun loop => !hub.loopFinished loop)))
  | .release =>
      let (hub, signals) := hub.close
      let world := (world.setHub target.cell hub).setTarget index none
      (world.emit task signals).give task (.flag true) stack
  | .isEmpty => await .isEmpty
  | .names => await .listeners
  | .interval => answer (.number hub.interval.millis)
  | .cancel =>
      match target.run with
      | none => answer .nothing
      | some loop =>
          (world.setHub target.cell (hub.cancelLoop loop)).give task .nothing stack
  | .hold millis =>
      let (hub, id) := hub.begin .borrow
      (world.setHub target.cell hub).setStack task
        (.hold target.cell id millis none :: stack)
  | .deliver delivery cause => await (.deliver delivery cause .awaitingLock)
  | .unknown name => answer (.unknownStep name)

def beginProducer (world : World) (task : TaskId) (stack : List Frame) :
    ProducerRequest → World
  | .create poolSize key =>
      let cell := world.cells.size
      let world := { world with
        cells := world.cells.push ⟨.create .standard, false⟩
        producer := some ⟨cell, .create poolSize, none⟩ }
      match world.listener? key with
      | none => world.give task .nothing stack
      | some listener =>
          world.await task cell (.create .standard) (.add listener)
            (.silent :: stack)
  | .step count =>
      match world.producer with
      | none => world.give task .nothing stack
      | some producer =>
          world.setStack task (.produce producer.cell count [] :: stack)
  | .run millis =>
      match world.producer with
      | none => world.give task .nothing stack
      | some producer =>
          let run := world.producerLoops.size
          let loop := ProducerLoop.spawn producer.producer (.ofMillis millis)
          let world := { world with
            producerLoops := world.producerLoops.push loop
            producer := some { producer with run := some run } }
          let (world, _) :=
            world.spawn loopOrigin [.produceLoop producer.cell run none]
          world.give task .nothing stack
  | .cancel =>
      match world.producer.bind (fun p => p.run.map (fun run => (p, run))) with
      | none => world.give task (.text "not_started") stack
      | some (producer, run) =>
          let world := { world with
            producerLoops := world.producerLoops.modify run ProducerLoop.cancel
            producer := some { producer with run := none } }
          world.setStack task (.awaitProducer run :: stack)
  | .snapshot =>
      match world.producer.bind
          (fun p => (world.hub? p.cell).map (fun hub => (p.cell, hub))) with
      | none => world.give task .noHub stack
      | some (cell, hub) => world.await task cell hub (.tick .checking) stack

/-- Abort a task that is not over: everything it holds is given up. -/
def abort (world : World) (target : TaskId) : World :=
  match world.tasks[target]? with
  | some ⟨_, stack, none⟩ =>
      (world.dropFrames target stack).endTask target .aborted
  | _ => world

/-- Begin a step of a task; `stack` is what awaits its answer. -/
def beginStep (world : World) (task : TaskId) (stack : List Frame) :
    Step → World
  | .hub index request => world.beginRequest task index request stack
  | .store call =>
      let (answer, store) := world.store.serve call
      { world with store := store }.give task (.ofStore answer) stack
  | .producer request => world.beginProducer task stack request
  | .sleep millis =>
      world.setStack task (.sleep ⟨world.after millis, none⟩ :: stack)
  | .spawn tag steps =>
      let (world, id) := world.spawn tag [.steps steps []]
      { world with tags := (tag, id) :: world.tags }.give task .nothing stack
  | .join tag =>
      match world.tags.lookup tag with
      | none => world.give task .nothing stack
      | some id => world.setStack task (.join id :: stack)
  | .finished tag =>
      let ended := ((world.tags.lookup tag).bind (fun id => world.tasks[id]?)).any
        (fun task => task.ending.isSome)
      world.give task (.flag ended) stack
  | .abort tag =>
      let world := match world.tags.lookup tag with
        | none => world
        | some id => world.abort id
      world.give task .nothing stack
  | .metrics => world.give task (.ledger world.ledger) stack
  | .received key =>
      match world.listeners.find? (fun cell => cell.spec.key == key) with
      | none => world.give task .nothing stack
      | some cell => world.give task (.number cell.received) stack
  | .within millis step =>
      world.beginStep task
        (.deadline ⟨world.after millis, none⟩ :: stack) step

end World
end AlarmRelay.Scenario
