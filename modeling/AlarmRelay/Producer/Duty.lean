import AlarmRelay.Hub.History
import AlarmRelay.Producer

/-!
# A producer on duty

A producer's loop with its hub and its store, both of which others use at the same
time.  Its shutdown may be cancelled at any moment.  Where the shutdown and the
next tick are both there, the loop may take either, and a run says which it takes.
-/

set_option autoImplicit false

namespace AlarmRelay

namespace ProducerLoop

/-- What the step under way has still to do. -/
def pending (loop : ProducerLoop) : List ProducerAction :=
  match loop.phase with
  | .stepping _ _ actions => actions
  | _ => []

/-- Whether the loop is between steps and its next tick is there. -/
def isDue (now : Instant) (loop : ProducerLoop) : Bool :=
  loop.due?.any fun due => decide (due ≤ now)

end ProducerLoop

structure Duty where
  hub : Hub
  store : AlarmStore
  loop : ProducerLoop
  /-- The operation that fans out the latest announcement. -/
  awaited : Option OperationId
  /-- Every announcement so far with the operation that fans it out, in order. -/
  announced : List (OperationId × AlarmEvent)

/-- What happens next to a producer's loop, its hub and its store. -/
inductive DutyEvent where
  /-- The shutdown of the loop is cancelled. -/
  | shutdown
  /-- The loop leaves a waiting point, where the clock shows `clock` and then
  `later`.  It takes a tick before its shutdown if `preferTick` says so. -/
  | wake (clock later : Timestamp) (preferTick : Bool)
  /-- The loop takes the next action of its step. -/
  | act
  | hub (event : HubEvent)
  /-- Somebody else writes to the store. -/
  | write (change : StoreWrite)
  deriving DecidableEq, Repr

/-- Whether an event is one in which the loop takes a tick before its shutdown. -/
def DutyEvent.prefersTick : DutyEvent → Bool
  | .wake _ _ preferTick => preferTick
  | _ => false

/-- One line of what a producer, and those who share its store, are seen to do. -/
inductive DutyMark where
  /-- A step begins, which is to take these actions. -/
  | begins (actions : List ProducerAction)
  | takes (action : ProducerAction)
  /-- Somebody else writes to the store. -/
  | shares (change : StoreWrite)
  deriving DecidableEq, Repr

namespace DutyMark

/-- The actions of the steps that begin, step by step. -/
def plans (marks : List DutyMark) : List (List ProducerAction) :=
  marks.filterMap fun
    | .begins actions => some actions
    | _ => none

/-- The actions that are taken, in order. -/
def taken (marks : List DutyMark) : List ProducerAction :=
  marks.filterMap fun
    | .takes action => some action
    | _ => none

def applyTo (store : AlarmStore) : DutyMark → AlarmStore
  | .begins _ => store
  | .takes action => action.applyTo store
  | .shares change => store.write change

end DutyMark

namespace Duty

/-- A producer's loop that has just been spawned. -/
def opened (hub : Hub) (store : AlarmStore) (producer : Producer)
    (interval : Duration) : Duty where
  hub := hub
  store := store
  loop := .spawn producer interval
  awaited := none
  announced := []

/-- Whether the latest announcement is still being fanned out. -/
def isWaiting (duty : Duty) : Bool :=
  duty.awaited.any fun id => duty.hub.inFlight.contains id

/-- Take one action of a step, after which the loop is left as `loop`. -/
def perform (now : Instant) (duty : Duty) (loop : ProducerLoop) :
    ProducerAction → Option Duty
  | .announce event =>
      (duty.hub.react now (.ask (.publish event))).map fun step =>
        { duty with
          hub := step.hub
          loop := loop
          awaited := some duty.hub.nextOperation
          announced :=
            duty.announced ++ [(duty.hub.nextOperation, event)] }
  | action =>
      some { duty with store := action.applyTo duty.store, loop := loop }

/-- Whether something may happen to the hub: a producer holds its hub until it is
over, and nobody else drops what it announces. -/
def permits (duty : Duty) : HubEvent → Bool
  | .close => duty.loop.isFinished
  | .abandon id => duty.awaited != some id
  | _ => true

/-- What one event makes of a duty at `now`; nothing if it cannot happen. -/
def react (now : Instant) (duty : Duty) : DutyEvent → Option Duty
  | .shutdown => some { duty with loop := duty.loop.cancel }
  | .wake clock later preferTick =>
      if duty.isWaiting then none
      else
        (duty.loop.wake now clock later duty.store preferTick).map
          fun woken => { duty with loop := woken.1 }
  | .act =>
      if duty.isWaiting then none
      else
        duty.loop.takeAction.bind fun (action, loop) =>
          duty.perform now loop action
  | .hub event =>
      if duty.permits event then
        (duty.hub.react now event).map fun step => { duty with hub := step.hub }
      else none
  | .write change => some { duty with store := duty.store.write change }

def run (duty : Duty) : List (Instant × DutyEvent) → Option Duty
  | [] => some duty
  | (now, event) :: rest => (duty.react now event).bind fun next => next.run rest

/-- What an observer sees along a run, event after event. -/
def observe {α : Type} (view : Duty → Instant → DutyEvent → Duty → List α)
    (duty : Duty) : List (Instant × DutyEvent) → List α
  | [] => []
  | (now, event) :: rest =>
      match duty.react now event with
      | none => []
      | some next => view duty now event next ++ next.observe view rest

/-- What is seen in one event.  A step begins where the producer counts it. -/
def marks (duty : Duty) (_ : Instant) (event : DutyEvent) (next : Duty) :
    List DutyMark :=
  match event with
  | .wake _ _ _ =>
      if next.loop.producer.steps = duty.loop.producer.steps then []
      else [.begins next.loop.pending]
  | .act => (duty.loop.pending.take 1).map .takes
  | .write change => [.shares change]
  | .shutdown | .hub _ => []

/-- What is seen along a run. -/
def record (duty : Duty) (events : List (Instant × DutyEvent)) : List DutyMark :=
  duty.observe marks events

/-- What one event does to the hub. -/
def hubEvents (duty : Duty) (now : Instant) (event : DutyEvent) (_ : Duty) :
    Timeline :=
  match event with
  | .hub event => [(now, event)]
  | .act =>
      (duty.loop.pending.take 1).filterMap fun action =>
        action.event?.map fun event => (now, .ask (.publish event))
  | .shutdown | .wake _ _ _ | .write _ => []

/-- What happens to the hub along a run. -/
def timeline (duty : Duty) (events : List (Instant × DutyEvent)) : Timeline :=
  duty.observe hubEvents events

end Duty

/-- An event has been fanned out by some operation: every listener over which it was
admitted was handed the event, once and in order, and every call has ended. -/
def Mark.FannedOut (journal : List Mark) (id : OperationId)
    (event : AlarmEvent) : Prop :=
  ∃ listeners reply report,
    .returned id reply ∈ journal ∧ reply.report? = some report ∧
    Mark.admission? id journal = some listeners ∧
    Mark.calls id journal =
      (listeners.map fun listener => (listener, .ofEvent event)) ∧
    Mark.endedCalls id journal = Mark.calls id journal ∧
    report.attempted = listeners.length

end AlarmRelay
