import AlarmRelay.Event
import AlarmRelay.Log
import AlarmRelay.SnapshotLoop
import AlarmRelay.Store

/-!
# The simulated producer

A producer cycles a fixed pool of alarms through their life.  One step changes
one alarm: it writes each change to the store first and announces it to the hub
afterwards.  The loop that repeats steps has two things to wait for, its next
due time and its shutdown, and when both are there at once it may take either.
-/

set_option autoImplicit false

namespace AlarmRelay

/-- A producer and the number of steps it has taken. -/
structure Producer where
  /-- Number of alarms in the pool; never zero. -/
  poolSize : Nat
  steps : Nat
  poolSize_pos : 0 < poolSize

inductive ProducerAction where
  | write (alarm : Alarm)
  | erase (id : AlarmId)
  /-- Announce an event to the hub and wait for its fan-out. -/
  | announce (event : AlarmEvent)
  | note (record : LogRecord)
  deriving DecidableEq, Repr

namespace Producer

def uei : String := "uei.opennms.org/generic/traps/SNMP_Link_Down"

def user : String := "alarmcast"

/-- A producer that has taken no step; an empty pool counts as a pool of one. -/
def create (poolSize : UInt32) : Producer where
  poolSize := max poolSize.toNat 1
  steps := 0
  poolSize_pos := by omega

/-- The alarm that the next step acts on. -/
def target (producer : Producer) : AlarmId :=
  UInt32.ofNat (producer.steps % producer.poolSize + 1)

/-- How often the pool has been gone through. -/
def round (producer : Producer) : Nat :=
  producer.steps / producer.poolSize

def next (producer : Producer) : Producer :=
  { producer with steps := producer.steps + 1 }

/-- The alarm with which an absent pool member begins. -/
def newborn (now : Timestamp) (id : AlarmId) : Alarm :=
  (Alarm.raise now id uei (uei ++ ":" ++ toString id.toNat) .warning).describe
    ("Link down on interface " ++ toString id.toNat)

/-- The actions by which an alarm changes and is announced under some kinds. -/
def change (alarm : Alarm) (kinds : List ContentKind) : List ProducerAction :=
  .write alarm :: kinds.map (fun kind => .announce (.content kind alarm))

/-- What a round does to an alarm that is stored.  The clock shows `now` when it
is read first; the memo of an acknowledgement is stamped `later`. -/
def alter (now later : Timestamp) (round : Nat) (alarm : Alarm) :
    List ProducerAction :=
  match round % 7 with
  | 0 | 1 => change (alarm.reduce now) [.updated]
  | 2 => change (alarm.setSeverity .major) [.severityChanged]
  | 3 =>
      let memo : Memo := ⟨"Investigating link flap", user, later⟩
      change ((alarm.acknowledge now user).setStickyMemo (some memo))
        [.acknowledged, .stickyMemoUpdated]
  | 4 =>
      change (alarm.unacknowledge.setStickyMemo none)
        [.unacknowledged, .stickyMemoDeleted]
  | 5 =>
      let memo : Memo := ⟨"Known flapping uplink", user, now⟩
      change (alarm.clear.setReductionKeyMemo (some memo))
        [.severityChanged, .reductionKeyMemoUpdated]
  | _ =>
      let last := alarm.setReductionKeyMemo none
      change last [.reductionKeyMemoDeleted]
        ++ [.erase alarm.id, .announce (.deletionOf last)]

/-- The actions of the next step over a store: an absent pool member is
created, a stored one goes through the round's change. -/
def plan (now later : Timestamp) (store : AlarmStore) (producer : Producer) :
    List ProducerAction :=
  match store.get? producer.target with
  | none => change (newborn now producer.target) [.created]
  | some alarm =>
      alter now later producer.round alarm
        ++ [.note (.producerStepped producer.target producer.round)]

end Producer

namespace ProducerAction

def applyTo (store : AlarmStore) : ProducerAction → AlarmStore
  | .write alarm => store.upsert alarm
  | .erase id => store.remove id
  | .announce _ | .note _ => store

def event? : ProducerAction → Option AlarmEvent
  | .announce event => some event
  | .write _ | .erase _ | .note _ => none

end ProducerAction

inductive ProducerPhase where
  /-- Spawned; it has not begun. -/
  | spawned
  /-- Between steps; it began at `origin` and has taken so many ticks. -/
  | idle (origin : Instant) (ticks : Nat)
  /-- Inside a step, with these actions still to do. -/
  | stepping (origin : Instant) (ticks : Nat) (actions : List ProducerAction)
  | finished (result : LoopEnd)
  deriving DecidableEq, Repr

/-- A producer that takes a step at every tick of a fixed interval. -/
structure ProducerLoop where
  producer : Producer
  interval : Duration
  cancelled : Bool
  phase : ProducerPhase

namespace ProducerLoop

def spawn (producer : Producer) (interval : Duration) : ProducerLoop :=
  ⟨producer, interval, false, .spawned⟩

def cancel (loop : ProducerLoop) : ProducerLoop :=
  { loop with cancelled := true }

def isFinished (loop : ProducerLoop) : Bool :=
  match loop.phase with
  | .finished _ => true
  | _ => false

def due? (loop : ProducerLoop) : Option Instant :=
  match loop.phase with
  | .idle origin ticks => some (SnapshotLoop.dueAt origin loop.interval ticks)
  | _ => none

/-- Leave a waiting point at `now`, where the clock shows `clock` and then `later`.
When the shutdown and the next tick are both there, `preferTick` decides; an empty
interval is refused after the first log record. -/
def wake (now : Instant) (clock later : Timestamp) (store : AlarmStore)
    (preferTick : Bool) (loop : ProducerLoop) :
    Option (ProducerLoop × List Signal) :=
  match loop.phase with
  | .spawned =>
      let phase :=
        if loop.interval.isZero then .finished .panicked else .idle now 0
      some ({ loop with phase := phase },
        [.log (.producerStarted loop.interval loop.producer.poolSize)])
  | .idle origin ticks =>
      let due := decide (SnapshotLoop.dueAt origin loop.interval ticks ≤ now)
      if due && (preferTick || !loop.cancelled) then
        some ({ loop with
            producer := loop.producer.next
            phase := .stepping origin (ticks + 1)
              (loop.producer.plan clock later store) }, [])
      else if loop.cancelled then
        some ({ loop with phase := .finished .exited },
          [.log .producerStopped])
      else none
  | .stepping origin ticks [] =>
      some ({ loop with phase := .idle origin ticks }, [])
  | .stepping _ _ (_ :: _) => none
  | .finished _ => none

def takeAction (loop : ProducerLoop) : Option (ProducerAction × ProducerLoop) :=
  match loop.phase with
  | .stepping origin ticks (action :: rest) =>
      some (action, { loop with phase := .stepping origin ticks rest })
  | _ => none

end ProducerLoop
end AlarmRelay
