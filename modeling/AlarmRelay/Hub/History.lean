import AlarmRelay.Hub.Journal
import AlarmRelay.Store

/-!
# Hubs over a store

Histories in which a hub and the writers of its store take turns, and what a
listener knows that keeps every alarm it is told of and forgets those it is told
are gone.
-/

set_option autoImplicit false

namespace AlarmRelay

inductive StoreWrite where
  | upsert (alarm : Alarm)
  | remove (id : AlarmId)
  deriving DecidableEq, Repr

namespace AlarmStore

def write (store : AlarmStore) : StoreWrite → AlarmStore
  | .upsert alarm => store.upsert alarm
  | .remove id => store.remove id

/-- The view of a listener after a notification that it accepted: a snapshot
replaces all of it, anything else changes one alarm. -/
def receive (view : AlarmStore) : Delivery → AlarmStore
  | .snapshot alarms => ofAlarms alarms
  | .upsert alarm => view.upsert alarm
  | .delete id _ => view.remove id

/-- The view of a listener after the notifications that it accepted. -/
def follow (view : AlarmStore) (accepted : List Delivery) : AlarmStore :=
  accepted.foldl receive view

end AlarmStore

/-- The notifications that a listener accepted, in order. -/
def Mark.accepted (listener : Listener) (marks : List Mark) : List Delivery :=
  marks.filterMap fun
    | .ended _ other delivery .accepted =>
        if other.isSame listener then some delivery else none
    | _ => none

/-- One thing that happens to a store and to the hub that reads it. -/
inductive WorldEvent where
  | write (change : StoreWrite)
  | hub (event : HubEvent)
  deriving DecidableEq, Repr

/-- Whether an event hands listeners something else than a scan of the source. -/
def HubEvent.isIngress : HubEvent → Bool
  | .ask (.publish _) | .ask (.deliver _ _) => true
  | _ => false

/-- Events of a hub whose source answers with `store`, and to which nobody announces
anything. -/
def HubEvent.Still (store : AlarmStore) (event : HubEvent) : Prop :=
  event.isIngress = false ∧
    ∀ id outcome, event = .answerScan id outcome → outcome = .alarms store.scan

abbrev History := List (Instant × WorldEvent)

namespace History

/-- What happens to the hub. -/
def timeline (history : History) : Timeline :=
  history.filterMap fun
    | (now, .hub event) => some (now, event)
    | (_, .write _) => none

/-- The store after a history. -/
def store (start : AlarmStore) : History → AlarmStore
  | [] => start
  | (_, .write change) :: rest => store (start.write change) rest
  | (_, .hub _) :: rest => store start rest

/-- Whether every scan reads the store as it stands. -/
def isBacked (start : AlarmStore) : History → Bool
  | [] => true
  | (_, .write change) :: rest => isBacked (start.write change) rest
  | (_, .hub (.answerScan _ outcome)) :: rest =>
      outcome == .alarms start.scan && isBacked start rest
  | (_, .hub _) :: rest => isBacked start rest

/-- Whether nobody writes the store and nobody announces anything. -/
def isQuiet (history : History) : Bool :=
  history.all fun
    | (_, .write _) => false
    | (_, .hub event) => !event.isIngress

end History

/-- Whether an operation notifies listeners, now or later. -/
def Operation.notifies : Operation → Bool
  | .deliver _ _ _ | .tick _ => true
  | _ => false

namespace Hub

/-- Whether every notification that a caller asked for is over. -/
def isSettled (hub : Hub) : Bool :=
  hub.callerOperations.all fun id =>
    !(hub.operation? id).any Operation.notifies

end Hub
end AlarmRelay
