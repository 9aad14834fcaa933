import AlarmRelay.Scenario.Begin

/-!
# The next step of a task

A task goes on as far as its top frame lets it.  When that frame has to wait, the
innermost deadline that has passed drops everything above it, so a step that can
complete at the very moment of its deadline does complete.
-/

set_option autoImplicit false

namespace AlarmRelay.Scenario

/-- What a producer's loop does when its shutdown and its next tick are both there.
It may do either; in a scenario it takes the tick. -/
def takesOverdueTick : Bool := true

namespace World

def viewOf (brief : Bool) (alarm : Alarm) : AlarmView :=
  if brief then .id alarm.id else .full alarm

/-- The call entry of a delivery to a scripted listener. -/
def callEntry (world : World) (spec : ListenerSpec) : Delivery → CallEntry
  | .snapshot alarms => .snapshot spec.name (alarms.map (viewOf spec.brief))
  | .upsert alarm =>
      .upsert spec.name (viewOf spec.brief alarm) (stored alarm.id)
  | .delete id key => .delete spec.name id key (stored id)
where
  /-- What the store holds under an id, for a listener that observes it. -/
  stored (id : AlarmId) : Option (Option AlarmView) :=
    if spec.observe then
      some ((world.store.get? id).map (viewOf spec.brief))
    else none

/-- The stage in which a call with this delay begins. -/
def firstStage (world : World) : Option Nat → CallStage
  | none => .ready
  | some millis => .delayed ⟨world.after millis, none⟩

def answerCall (world : World) (task : TaskId) (cell : Nat) (id : OperationId)
    (outcome : CallOutcome) : World :=
  match world.hub? cell with
  | none => world
  | some hub =>
      let (hub, signals) := hub.answerCall id outcome
      (world.setHub cell hub).emit task signals

/-- Enter the listener call that an operation of a hub makes. -/
def enterCall (world : World) (task : TaskId) (cell : Nat) (id : OperationId)
    (listener : Listener) (delivery : Delivery) (stack : List Frame) : World :=
  match world.listeners[listener.id]? with
  | none => world.answerCall task cell id .accepted
  | some entry =>
      match entry.spec.kind with
      | .tracing =>
          let records := TracingListener.records entry.spec.name delivery
          (world.emit task (records.map Signal.log)).answerCall task cell id
            .accepted
      | .counting =>
          let received := entry.received + CountingListener.weight delivery
          { world with
            listeners := world.listeners.modify listener.id
              (fun cell => { cell with received := received }) }.answerCall
            task cell id .accepted
      | .scripted =>
          let behaviour := entry.behaviours.head?.getD .plain
          let world := { world with
            listeners := world.listeners.modify listener.id
              (fun cell => { cell with behaviours := cell.behaviours.tail }) }
          (world.record task (world.callEntry entry.spec delivery)).setStack task
            (.call cell id listener.id behaviour
              (world.firstStage behaviour.delay) :: stack)

/-- Enter the source scan that an operation of a hub makes. -/
def enterScan (world : World) (task : TaskId) (cell : Nat) (id : OperationId)
    (scripted : Bool) (stack : List Frame) : World :=
  let behaviour :=
    if scripted then world.source.head?.getD .plain else .plain
  let source := if scripted then world.source.tail else world.source
  let world := { world with source := source }.record task .scan
  let timer := behaviour.delay.map fun millis => ⟨world.after millis, none⟩
  world.setStack task (.scan cell id behaviour.result timer :: stack)

/-- Serve what an operation of a hub waits for, if that is a call or a scan. -/
def serve (world : World) (task : TaskId) (cell : Nat) (id : OperationId)
    (stack : List Frame) : Option World :=
  match world.cells[cell]? with
  | none => none
  | some entry =>
      match (entry.hub.operation? id).map Operation.demand with
      | some (.call listener delivery) =>
          some (world.enterCall task cell id listener delivery stack)
      | some .scan =>
          some (world.enterScan task cell id entry.scriptedSource stack)
      | _ => none

/-- End a source scan: the hub goes on with its result, and a tick that is over
answers the frames below. -/
def endScan (world : World) (task : TaskId) (cell : Nat) (id : OperationId)
    (result : ScanResult) (stack : List Frame) : World :=
  let outcome := match result with
    | .read => ScanOutcome.alarms world.store.scan
    | .failed error => .failed error
    | .panicked payload => .panicked payload
  match world.hub? cell with
  | none => world.setStack task stack
  | some hub =>
      let step := hub.answerScan id outcome
      let world := (world.setHub cell step.hub).emit task step.signals
      match step.reply, stack with
      | some reply, .operation _ _ :: rest =>
          world.give task (.ofReply reply) rest
      | _, _ => world.setStack task stack

def doAction (world : World) (task : TaskId) (cell : Nat)
    (action : ProducerAction) (stack : List Frame) : World :=
  let world := { world with store := action.applyTo world.store }
  match action, world.hub? cell with
  | .note record, _ => (world.emit task [.log record]).setStack task stack
  | .announce event, some hub => world.announce task cell hub event stack
  | _, _ => world.setStack task stack

/-- The next step of a task whose top frame is `frame`, if it can take one. -/
def stepFrame (world : World) (task : TaskId) (rest : List Frame) :
    Frame → Option World
  | .steps [] done => some (world.give task (.outcomes done) rest)
  | .steps (step :: todo) done =>
      some (world.beginStep task (.steps todo done :: rest) step)
  | .deadline _ | .silent => some (world.give task .nothing rest)
  | .sleep timer =>
      if timer.due ≤ world.now then some (world.give task .nothing rest) else none
  | .join target =>
      match (world.tasks[target]?).bind Task.ending with
      | none => none
      | some (.completed answer) => some (world.give task answer rest)
      | some .aborted => some (world.give task (.text "panicked") rest)
  | .operation cell id =>
      match world.hub? cell with
      | none => none
      | some hub =>
          match hub.advance id with
          | some step =>
              let world := (world.setHub cell step.hub).emit task step.signals
              match step.reply with
              | none => some world
              | some reply => some (world.give task (.ofReply reply) rest)
          | none => world.serve task cell id (.operation cell id :: rest)
  | .call cell id listener behaviour (.delayed timer) =>
      if timer.due ≤ world.now then
        let name := ((world.listeners[listener]?).map (·.spec.name)).getD ""
        some ((world.record task (.done name)).setStack task
          (.call cell id listener behaviour .ready :: rest))
      else none
  | .call cell id listener behaviour .ready =>
      match behaviour.steps with
      | none =>
          some (world.setStack task
            (.call cell id listener behaviour .ending :: rest))
      | some steps =>
          some (world.setStack task (.steps steps []
            :: .call cell id listener behaviour .running :: rest))
  | .call _ _ _ _ .running => none
  | .call cell id _ behaviour .ending =>
      some ((world.answerCall task cell id behaviour.outcome).setStack task rest)
  | .scan cell id result (some timer) =>
      if timer.due ≤ world.now then
        some ((world.record task (.done "source")).setStack task
          (.scan cell id result none :: rest))
      else none
  | .scan cell id result none => some (world.endScan task cell id result rest)
  | .hold cell id millis none =>
      match world.hub? cell with
      | none => none
      | some hub =>
          if hub.registry.lock.holdsShared id then
            some (world.setStack task (.hold cell id millis
              (some (⟨world.after millis, none⟩, hub.registry.listeners.length))
              :: rest))
          else none
  | .hold cell id _ (some (timer, count)) =>
      if timer.due ≤ world.now then
        some ((world.abandon task cell id).give task (.number count) rest)
      else none
  | .schedule cell loop _ =>
      match world.hub? cell with
      | none => none
      | some hub =>
          match hub.advanceLoop world.now loop with
          | some (hub, signals) =>
              let world := (world.setHub cell hub).emit task signals
              if hub.loopFinished loop then
                some (world.endTask task (.completed .nothing))
              else some (world.setStack task (.schedule cell loop none :: rest))
          | none =>
              (hub.loopTick? loop).bind fun id =>
                world.serve task cell id (.schedule cell loop none :: rest)
  | .awaitLoop cell loop =>
      match (world.hub? cell).bind (fun hub => hub.loops[loop]?) with
      | none => none
      | some entry =>
          match entry.phase with
          | .finished .panicked => some (world.give task (.text "panicked") rest)
          | .finished _ => some (world.give task (.text "exited") rest)
          | _ => none
  | .produce cell remaining (action :: actions) =>
      some (world.doAction task cell action
        (.produce cell remaining actions :: rest))
  | .produce _ 0 [] => some (world.give task .nothing rest)
  | .produce cell (remaining + 1) [] =>
      match world.producer with
      | none => some (world.give task .nothing rest)
      | some entry =>
          let actions :=
            entry.producer.plan world.clock world.clock world.store
          some ({ world with
            producer := some { entry with producer := entry.producer.next }
            }.setStack task (.produce cell remaining actions :: rest))
  | .produceLoop cell run _ =>
      match world.producerLoops[run]? with
      | none => none
      | some loop =>
          let put := fun (loop : ProducerLoop) => { world with
            producerLoops := world.producerLoops.modify run (fun _ => loop) }
          match loop.takeAction with
          | some (action, loop) =>
              some ((put loop).doAction task cell action
                (.produceLoop cell run none :: rest))
          | none =>
              match loop.wake world.now world.clock world.clock world.store
                  takesOverdueTick with
              | none => none
              | some (loop, signals) =>
                  let world := (put loop).emit task signals
                  if loop.isFinished then
                    some (world.endTask task (.completed .nothing))
                  else
                    some (world.setStack task
                      (.produceLoop cell run none :: rest))
  | .awaitProducer run =>
      match (world.producerLoops[run]?).map ProducerLoop.phase with
      | some (.finished .panicked) =>
          some (world.give task (.text "panicked") rest)
      | some (.finished _) => some (world.give task (.text "exited") rest)
      | _ => none

def stepTop (world : World) (task : TaskId) : Option World :=
  match world.tasks[task]? with
  | some ⟨_, frame :: rest, none⟩ => world.stepFrame task rest frame
  | _ => none

/-- The frames above and below the innermost deadline that has passed. -/
def splitAtDeadline (now : Instant) :
    List Frame → Option (List Frame × List Frame)
  | [] => none
  | .deadline timer :: rest =>
      if timer.due ≤ now then some ([], rest)
      else (splitAtDeadline now rest).map fun (above, below) =>
        (.deadline timer :: above, below)
  | frame :: rest =>
      (splitAtDeadline now rest).map fun (above, below) =>
        (frame :: above, below)

/-- Drop what did not complete before its deadline. -/
def expire (world : World) (task : TaskId) : Option World :=
  match world.tasks[task]? with
  | some ⟨_, stack, none⟩ =>
      (splitAtDeadline world.now stack).map fun (above, below) =>
        (world.dropFrames task above).give task .timeout below
  | _ => none

def step (world : World) (task : TaskId) : Option World :=
  match world.stepTop task with
  | some world => some world
  | none => world.expire task

def timerOf (world : World) : Frame → Option Timer
  | .deadline timer | .sleep timer => some timer
  | .call _ _ _ _ (.delayed timer) => some timer
  | .scan _ _ _ timer => timer
  | .hold _ _ _ held => held.map Prod.fst
  | .schedule cell loop armed =>
      ((world.hub? cell).bind (fun hub => hub.loopDue? loop)).map fun due =>
        ⟨due, armed⟩
  | .produceLoop _ run armed =>
      ((world.producerLoops[run]?).bind ProducerLoop.due?).map fun due =>
        ⟨due, armed⟩
  | _ => none

/-- A frame whose deadline is armed, if it has one that is not. -/
def armFrame (world : World) (number : Nat) (frame : Frame) : Option Frame :=
  match world.timerOf frame with
  | some ⟨due, none⟩ =>
      let timer : Timer := ⟨due, some number⟩
      match frame with
      | .deadline _ => some (.deadline timer)
      | .sleep _ => some (.sleep timer)
      | .call cell id listener behaviour (.delayed _) =>
          some (.call cell id listener behaviour (.delayed timer))
      | .scan cell id result (some _) => some (.scan cell id result (some timer))
      | .hold cell id millis (some (_, count)) =>
          some (.hold cell id millis (some (timer, count)))
      | .schedule cell loop _ => some (.schedule cell loop (some number))
      | .produceLoop cell run _ => some (.produceLoop cell run (some number))
      | _ => none
  | _ => none

/-- Arm every deadline of a task that has to wait, the innermost first. -/
def park (world : World) (task : TaskId) : World :=
  match world.tasks[task]? with
  | some ⟨_, stack, none⟩ =>
      let (stack, armed) := stack.foldl (fun (done, armed) frame =>
        match world.armFrame armed frame with
        | some frame => (frame :: done, armed + 1)
        | none => (frame :: done, armed)) (([] : List Frame), world.armed)
      { world with armed := armed }.setStack task stack.reverse
  | _ => world

end World
end AlarmRelay.Scenario
