import AlarmRelay.Hub.Journal

/-!
# Scripts

Calls made to a hub one after the other, each awaited before the next.  A script
says what it hands to whom and what it answers; a play is a run of it, in which
the listeners may answer as they like.
-/

set_option autoImplicit false

namespace AlarmRelay

/-- One call of a script. -/
inductive ScriptCall where
  | subscribe (listener : Listener)
  | unsubscribe (listener : Listener)
  | publish (event : AlarmEvent)
  /-- Run one reconciliation pass, for which the source answers with `scan`. -/
  | snapshot (scan : ScanOutcome)
  deriving DecidableEq, Repr

abbrev Script := List ScriptCall

namespace ScriptCall

def request : ScriptCall → Request
  | .subscribe listener => .subscribe listener
  | .unsubscribe listener => .unsubscribe listener
  | .publish event => .publish event
  | .snapshot _ => .snapshot

/-- What the source answers; only a reconciliation pass reads it. -/
def scan : ScriptCall → ScanOutcome
  | .snapshot scan => scan
  | _ => .alarms []

/-- The listeners after the call. -/
def members (before : List Listener) : ScriptCall → List Listener
  | .subscribe listener =>
      if before.any (fun other => other.isSame listener) then before
      else before ++ [listener]
  | .unsubscribe listener =>
      before.eraseP (fun other => other.isSame listener)
  | .publish _ | .snapshot _ => before

/-- What the call hands to whom. -/
def handed (members : List Listener) :
    ScriptCall → List (Listener × Delivery)
  | .publish (.content _ alarm) =>
      members.map fun listener => (listener, .upsert alarm)
  | .publish (.deleted id reductionKey) =>
      members.map fun listener => (listener, .delete id reductionKey)
  | .snapshot (.alarms alarms) =>
      members.map fun listener => (listener, .snapshot alarms)
  | _ => []

/-- The report of a call to every listener. -/
def report (members : List Listener) (outcomes : List CallOutcome) :
    DispatchReport :=
  ⟨members.length, outcomes.countP CallOutcome.isFault⟩

/-- What the call answers when the listeners do so with `outcomes`. -/
def reply (members : List Listener) (outcomes : List CallOutcome) :
    ScriptCall → Reply
  | .subscribe listener =>
      .flag (!members.any (fun other => other.isSame listener))
  | .unsubscribe listener =>
      .flag (members.any (fun other => other.isSame listener))
  | .publish _ => .report (report members outcomes)
  | .snapshot scan =>
      if members.isEmpty then .tick .skipped
      else
        match scan with
        | .alarms alarms =>
            .tick (.delivered alarms.length (report members outcomes))
        | .failed error => .tick (.failed error.message)
        | .panicked payload =>
            .tick (.failed ("panicked: " ++ payload.message))

/-- The events that serve a call which runs as `id`.  Its listener calls end with
any outcome. -/
inductive Serves (call : ScriptCall) (id : OperationId) : HubEvent → Prop where
  | advance : Serves call id (.advance id)
  | answerCall (outcome : CallOutcome) : Serves call id (.answerCall id outcome)
  | answerScan : Serves call id (.answerScan id call.scan)

end ScriptCall

namespace Script

/-- The listeners after a script. -/
def members (before : List Listener) : Script → List Listener
  | [] => before
  | call :: rest => members (call.members before) rest

/-- What a script hands to whom, in order. -/
def handed (before : List Listener) : Script → List (Listener × Delivery)
  | [] => []
  | call :: rest => call.handed before ++ handed (call.members before) rest

/-- What a script answers when the listeners do so with `outcomes`, each call to
a listener with the next one. -/
def replies (before : List Listener) (outcomes : List CallOutcome) :
    Script → List Reply
  | [] => []
  | call :: rest =>
      let count := (call.handed before).length
      call.reply before (outcomes.take count)
        :: replies (call.members before) (outcomes.drop count) rest

end Script

/-- The listener calls ended with the outcomes of a stream, one after the other. -/
def Mark.Heeds (stream : Nat → CallOutcome) (marks : List Mark) : Prop :=
  verdicts marks = (List.range (verdicts marks).length).map stream

namespace Hub

/-- A call is asked for and served, perhaps not to its end. -/
structure Serving (hub : Hub) (call : ScriptCall) (now : Instant)
    (events : Timeline) (midway : Hub) : Prop where
  reached : hub.run ((now, .ask call.request) :: events) = some midway
  served : ∀ entry ∈ events, call.Serves hub.nextOperation entry.2

/-- The runs of a script: every call is served until it has answered. -/
inductive Plays : Hub → Script → Timeline → Hub → Prop where
  | done (hub : Hub) : Plays hub [] [] hub
  | call (hub : Hub) (call : ScriptCall) (rest : Script) (now : Instant)
      (events later : Timeline) (served final : Hub)
      (serving : hub.Serving call now events served)
      (answered : hub.nextOperation ∉ served.inFlight)
      (onward : Plays served rest later final) :
      Plays hub (call :: rest) ((now, .ask call.request) :: events ++ later)
        final

end Hub
end AlarmRelay
