import AlarmRelay.Hub.Journal
import AlarmRelay.Producer

/-!
# A producer at work

A producer with the store that it alone writes and with its hub, which others use
at the same time.  The actions of a step are taken one after the other; while an
announcement is being fanned out the producer waits, and anything else may happen
to the hub: listeners answer when and as they like, join and leave, and snapshots
are taken.
-/

set_option autoImplicit false

namespace AlarmRelay

structure Workshop where
  hub : Hub
  store : AlarmStore
  producer : Producer
  /-- What the step under way has still to do. -/
  actions : List ProducerAction
  /-- The operation that fans out the latest announcement. -/
  awaited : Option OperationId
  /-- Every announcement so far with the operation that fans it out, in order. -/
  announced : List (OperationId × AlarmEvent)
  /-- Every record that the store was given, the latest first. -/
  written : List Alarm

/-- What happens next to a producer, its store and its hub. -/
inductive WorkEvent where
  /-- The producer begins a step, for which the clock shows `now` and then `later`. -/
  | step (now later : Timestamp)
  /-- The producer takes the next action of its step. -/
  | act
  | hub (event : HubEvent)
  deriving DecidableEq, Repr

/-- A listener call of an announcement, with the store as it stood when the call
began. -/
structure Notification where
  event : AlarmEvent
  listener : Listener
  delivery : Delivery
  store : AlarmStore
  written : List Alarm
  deriving DecidableEq, Repr

/-- Whether a store says what a delivery says: it holds a changed alarm as it is
handed out, and nothing under the id of a deleted one, whose key is that of the
record stored there last. -/
def Delivery.IsBacked (store : AlarmStore) (written : List Alarm) :
    Delivery → Prop
  | .upsert alarm => store.get? alarm.id = some alarm
  | .delete id key => store.get? id = none ∧
      (written.find? fun alarm => alarm.id == id).map Alarm.reductionKey =
        some key
  | .snapshot _ => False

instance (store : AlarmStore) (written : List Alarm) :
    (delivery : Delivery) → Decidable (delivery.IsBacked store written)
  | .upsert alarm =>
      inferInstanceAs (Decidable (store.get? alarm.id = some alarm))
  | .delete id key =>
      inferInstanceAs (Decidable (store.get? id = none ∧
        (written.find? fun alarm => alarm.id == id).map Alarm.reductionKey =
          some key))
  | .snapshot _ => inferInstanceAs (Decidable False)

namespace Workshop

def opened (hub : Hub) (store : AlarmStore) (producer : Producer) : Workshop where
  hub := hub
  store := store
  producer := producer
  actions := []
  awaited := none
  announced := []
  written := store.records

/-- Whether the latest announcement is still being fanned out. -/
def isWaiting (shop : Workshop) : Bool :=
  shop.awaited.any fun id => shop.hub.inFlight.contains id

/-- Take one action of a step, after which `rest` is left of it. -/
def perform (now : Instant) (shop : Workshop) (rest : List ProducerAction) :
    ProducerAction → Option Workshop
  | .write alarm =>
      some { shop with
        store := shop.store.upsert alarm
        written := alarm :: shop.written
        actions := rest }
  | .erase id =>
      some { shop with store := shop.store.remove id, actions := rest }
  | .announce event =>
      (shop.hub.react now (.ask (.publish event))).map fun step =>
        { shop with
          hub := step.hub
          actions := rest
          awaited := some shop.hub.nextOperation
          announced :=
            shop.announced ++ [(shop.hub.nextOperation, event)] }
  | .note _ => some { shop with actions := rest }

/-- What one event makes of a workshop at `now`; nothing if it cannot happen.  A
step begins when the one before it has been taken to its end. -/
def react (now : Instant) (shop : Workshop) : WorkEvent → Option Workshop
  | .step clock later =>
      if shop.isWaiting || !shop.actions.isEmpty then none
      else
        some { shop with
          producer := shop.producer.next
          actions := shop.producer.plan clock later shop.store }
  | .act =>
      if shop.isWaiting then none
      else
        match shop.actions with
        | [] => none
        | action :: rest => shop.perform now rest action
  | .hub event =>
      (shop.hub.react now event).map fun step => { shop with hub := step.hub }

def run (shop : Workshop) : List (Instant × WorkEvent) → Option Workshop
  | [] => some shop
  | (now, event) :: rest => (shop.react now event).bind fun next => next.run rest

/-- The listener calls of announcements that begin in one event. -/
def notified (now : Instant) (shop : Workshop) :
    WorkEvent → List Notification
  | .hub event =>
      ((shop.hub.react now event).map (shop.hub.marks event)).getD []
        |>.filterMap fun
          | .began id listener delivery =>
              (shop.announced.lookup id).map fun event =>
                ⟨event, listener, delivery, shop.store, shop.written⟩
          | _ => none
  | .step _ _ | .act => []

/-- The listener calls of announcements that begin along a run, in order. -/
def notifications (shop : Workshop) :
    List (Instant × WorkEvent) → List Notification
  | [] => []
  | (now, event) :: rest =>
      match shop.react now event with
      | none => []
      | some next => shop.notified now event ++ next.notifications rest

end Workshop
end AlarmRelay
