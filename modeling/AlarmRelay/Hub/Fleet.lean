import AlarmRelay.Hub.History

/-!
# Fleets of hubs

Any number of hubs in one process.  They share a ledger, which starts empty, and a
log, and have nothing else in common.  Observers of a fleet see what becomes of the
operations of its hubs, event after event.
-/

set_option autoImplicit false

namespace AlarmRelay

/-- Hubs that share one ledger and one log. -/
structure Fleet where
  /-- Every hub created so far; its position is its name. -/
  hubs : List Hub
  ledger : Ledger
  log : List LogRecord
  deriving DecidableEq, Repr

/-- One thing that happens to a fleet. -/
inductive FleetEvent where
  /-- Somebody asks for a hub; an invalid configuration is refused. -/
  | create (config : HubConfig)
  | hub (index : Nat) (event : HubEvent)
  deriving DecidableEq, Repr

/-- The events of a fleet, each with the instant at which it happens. -/
abbrev FleetTimeline := List (Instant × FleetEvent)

/-- Whether a caller hands listeners a notification of his own making, past the
calls that announce events. -/
def HubEvent.isRaw : HubEvent → Bool
  | .ask (.deliver _ _) => true
  | _ => false

def FleetEvent.isRaw : FleetEvent → Bool
  | .create _ => false
  | .hub _ event => event.isRaw

namespace Hub

/-- The operations that an event begins. -/
def begun (hub : Hub) (_ : HubEvent) (step : Progress) : List Operation :=
  (step.hub.operations.filter fun entry => hub.nextOperation ≤ entry.1).map
    Prod.snd

/-- The operations that an event ends, as they stood before it. -/
def gone (hub : Hub) (step : Progress) : List Operation :=
  (hub.operations.filter fun entry => !step.hub.inFlight.contains entry.1).map
    Prod.snd

/-- The operations that an event ends with an answer. -/
def answered (hub : Hub) (_ : HubEvent) (step : Progress) :
    List (Operation × Reply) :=
  match step.reply with
  | none => []
  | some reply => (hub.gone step).map fun operation => (operation, reply)

/-- The operations that an event ends without an answer. -/
def dropped (hub : Hub) (_ : HubEvent) (step : Progress) : List Operation :=
  match step.reply with
  | none => hub.gone step
  | some _ => []

end Hub

namespace Fleet

def empty : Fleet := ⟨[], .empty, []⟩

instance : Inhabited Fleet := ⟨empty⟩

/-- The fleet after some hub has shown `signals`. -/
def note (fleet : Fleet) (signals : List Signal) : Fleet :=
  { fleet with
    ledger := fleet.ledger.recordAll (Signal.metrics signals)
    log := fleet.log ++ Signal.logs signals }

def create (fleet : Fleet) (config : HubConfig) : Fleet :=
  match Hub.create? config with
  | .error _ => fleet
  | .ok (hub, signals) =>
      { fleet.note signals with hubs := fleet.hubs ++ [hub] }

/-- The step of the hub that an event happens to, with the hub before it. -/
def step? (fleet : Fleet) (now : Instant) (index : Nat) (event : HubEvent) :
    Option (Hub × Progress) := do
  let hub ← fleet.hubs[index]?
  let step ← hub.react now event
  return (hub, step)

/-- The fleet after a step of one of its hubs. -/
def settle (fleet : Fleet) (index : Nat) (step : Progress) : Fleet :=
  { fleet.note step.signals with hubs := fleet.hubs.set index step.hub }

/-- The fleet after a run; nothing if one of its events cannot happen. -/
def run (fleet : Fleet) : FleetTimeline → Option Fleet
  | [] => some fleet
  | (_, .create config) :: rest => (fleet.create config).run rest
  | (now, .hub index event) :: rest =>
      match fleet.step? now index event with
      | none => none
      | some (_, step) => (fleet.settle index step).run rest

/-- What an observer of the hubs sees along a run, event after event. -/
def observe {α : Type} (view : Hub → HubEvent → Progress → List α)
    (fleet : Fleet) : FleetTimeline → List α
  | [] => []
  | (_, .create config) :: rest => (fleet.create config).observe view rest
  | (now, .hub index event) :: rest =>
      match fleet.step? now index event with
      | none => []
      | some (hub, step) =>
          view hub event step ++ (fleet.settle index step).observe view rest

end Fleet

def Operation.isTick : Operation → Bool
  | .tick _ => true
  | _ => false

/-- Whether an operation fans out an event of a kind. -/
def Operation.announces (kind : String) : Operation → Bool
  | .deliver _ cause _ => cause == kind
  | _ => false

/-- The path on which an operation notifies listeners. -/
def Operation.path? : Operation → Option DeliveryPath
  | .deliver delivery _ _ => some delivery.path
  | .tick _ => some .snapshot
  | _ => none

/-- The report in an answer, if the operation that gave it notified on a path. -/
def DeliveryPath.report? (path : DeliveryPath) (entry : Operation × Reply) :
    Option DispatchReport :=
  if entry.1.path? = some path then entry.2.report? else none

def Reply.outcome? : Reply → Option TickOutcome
  | .tick outcome => some outcome
  | _ => none

/-- The number of alarms in a snapshot that was fanned out. -/
def TickOutcome.alarms? : TickOutcome → Option Nat
  | .delivered alarms _ => some alarms
  | _ => none

/-- The causes under which the failures on a path are logged. -/
def DeliveryPath.causes : DeliveryPath → List String
  | .snapshot => ["snapshot"]
  | .upsert => ContentKind.all.map ContentKind.label
  | .delete => ["deleted"]

/-- Whether a log entry tells of a listener that failed on a path. -/
def LogEntry.isFailureOn (path : DeliveryPath) (entry : LogEntry) : Bool :=
  entry.level == .error
    && entry.message == "Error occurred while invoking listener. Skipping."
    && path.causes.any fun cause => entry.fields.contains ("event", .text cause)

namespace Fleet

/-- The number of events of a kind that were announced along a run. -/
def announcements (fleet : Fleet) (kind : String) (timeline : FleetTimeline) :
    Nat :=
  (fleet.observe Hub.begun timeline).countP (Operation.announces kind)

/-- The number of ticks along a run. -/
def ticks (fleet : Fleet) (timeline : FleetTimeline) : Nat :=
  (fleet.observe Hub.begun timeline).countP Operation.isTick

/-- What the ticks along a run came to. -/
def outcomes (fleet : Fleet) (timeline : FleetTimeline) : List TickOutcome :=
  (fleet.observe Hub.answered timeline).filterMap fun entry => entry.2.outcome?

/-- The reports on a path along a run. -/
def reports (fleet : Fleet) (path : DeliveryPath) (timeline : FleetTimeline) :
    List DispatchReport :=
  (fleet.observe Hub.answered timeline).filterMap path.report?

/-- The log entries about listeners that failed on a path. -/
def failureEntries (fleet : Fleet) (path : DeliveryPath) : List LogEntry :=
  (fleet.log.map LogRecord.entry).filter (LogEntry.isFailureOn path)

end Fleet
end AlarmRelay
