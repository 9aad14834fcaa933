import AlarmRelay.Hub.History
import AlarmRelay.Hub.Script
import AlarmRelay.Producer

/-!
# A producer and its hub

Histories in which one producer is the only writer of the store that its hub
scans.  The producer takes step after step, each to its end; between two steps
callers may ask the hub for a snapshot and subscribe and unsubscribe listeners.
-/

set_option autoImplicit false

namespace AlarmRelay

/-- What happens next to a producer and its hub. -/
inductive ProducerTurn where
  /-- The producer takes a step, for which the clock shows `now` and then `later`. -/
  | step (now later : Timestamp)
  | snapshot
  | subscribe (listener : Listener)
  | unsubscribe (listener : Listener)
  deriving DecidableEq, Repr

namespace ProducerTurn

/-- The call that a turn makes to a hub over `store`; a step makes none itself. -/
def call? (store : AlarmStore) : ProducerTurn → Option ScriptCall
  | .step _ _ => none
  | .snapshot => some (.snapshot (.alarms store.scan))
  | .subscribe listener => some (.subscribe listener)
  | .unsubscribe listener => some (.unsubscribe listener)

/-- Whether a turn leaves a listener registered. -/
def keeps (listener : Listener) : ProducerTurn → Bool
  | .unsubscribe other => !other.isSame listener
  | _ => true

def isSnapshot : ProducerTurn → Bool
  | .snapshot => true
  | _ => false

end ProducerTurn

namespace ProducerAction

/-- The deliveries that some actions announce, in order. -/
def deliveries (actions : List ProducerAction) : List Delivery :=
  actions.filterMap fun action => action.event?.map Delivery.ofEvent

end ProducerAction

/-- A history in which nothing but a run of the hub happens. -/
def History.ofTimeline (timeline : Timeline) : History :=
  timeline.map fun entry => (entry.1, .hub entry.2)

/-- Every call of the listener that ended was accepted. -/
def Mark.Accepts (listener : Listener) (marks : List Mark) : Prop :=
  ∀ id other delivery outcome, .ended id other delivery outcome ∈ marks →
    other.isSame listener = true → outcome = .accepted

namespace Hub

/-- The histories of some actions, one after the other: writes go to the store,
announcements are played to their end. -/
inductive Performs : Hub → List ProducerAction → History → Hub → Prop where
  | done (hub : Hub) : Performs hub [] [] hub
  | write (hub : Hub) (now : Instant) (alarm : Alarm)
      (rest : List ProducerAction) (history : History) (final : Hub)
      (onward : Performs hub rest history final) :
      Performs hub (.write alarm :: rest)
        ((now, .write (.upsert alarm)) :: history) final
  | erase (hub : Hub) (now : Instant) (id : AlarmId)
      (rest : List ProducerAction) (history : History) (final : Hub)
      (onward : Performs hub rest history final) :
      Performs hub (.erase id :: rest) ((now, .write (.remove id)) :: history)
        final
  | announce (hub : Hub) (event : AlarmEvent) (rest : List ProducerAction)
      (timeline : Timeline) (history : History) (served final : Hub)
      (plays : hub.Plays [.publish event] timeline served)
      (onward : Performs served rest history final) :
      Performs hub (.announce event :: rest)
        (.ofTimeline timeline ++ history) final
  | note (hub : Hub) (record : LogRecord) (rest : List ProducerAction)
      (history : History) (final : Hub)
      (onward : Performs hub rest history final) :
      Performs hub (.note record :: rest) history final

/-- The histories of turns of a producer and the callers of its hub. -/
inductive Tends : Hub → AlarmStore → Producer → List ProducerTurn → History →
    Hub → Prop where
  | done (hub : Hub) (store : AlarmStore) (producer : Producer) :
      Tends hub store producer [] [] hub
  | step (hub : Hub) (store : AlarmStore) (producer : Producer)
      (now later : Timestamp) (turns : List ProducerTurn)
      (history more : History) (served final : Hub)
      (performs : hub.Performs (producer.plan now later store) history served)
      (onward : Tends served (history.store store) producer.next turns more
        final) :
      Tends hub store producer (.step now later :: turns) (history ++ more)
        final
  | call (hub : Hub) (store : AlarmStore) (producer : Producer)
      (turn : ProducerTurn) (call : ScriptCall) (turns : List ProducerTurn)
      (timeline : Timeline) (more : History) (served final : Hub)
      (asks : turn.call? store = some call)
      (plays : hub.Plays [call] timeline served)
      (onward : Tends served store producer turns more final) :
      Tends hub store producer (turn :: turns) (.ofTimeline timeline ++ more)
        final

end Hub
end AlarmRelay
