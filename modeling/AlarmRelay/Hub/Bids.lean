import AlarmRelay.Hub.Script

/-!
# Bids for the lock

Every request for a side of the registry lock along a run, in the order in which
they are made.  A tick bids twice, once to see whether anybody listens and once
to fan its scan out.  `replay` makes the changes of membership among some bids one
after the other, and `Gives` says what a bid comes to over a list of listeners
that nobody else changes.
-/

set_option autoImplicit false

namespace AlarmRelay

/-- An operation that asks for the lock, as it stood then. -/
abbrev Bid := OperationId × Operation

namespace Operation

/-- The side of the lock that an operation has asked for and not given up. -/
def lockSide? : Operation → Option LockMode
  | .add _ | .remove _ => some .exclusive
  | .count | .isEmpty | .listeners | .borrow => some .shared
  | .deliver _ _ _ => some .shared
  | .tick .checking | .tick (.delivering _ _) => some .shared
  | .tick .scanning | .awaitExit _ => none

/-- The change of membership that an operation makes. -/
def change? : Operation → Option ScriptCall
  | .add listener => some (.subscribe listener)
  | .remove listener => some (.unsubscribe listener)
  | _ => none

/-- What a bid comes to over a list of listeners: the answer of its operation and
the calls that it makes. -/
inductive Gives (members : List Listener) :
    Operation → Reply → List (Listener × Delivery) → Prop where
  | add (listener : Listener) :
      Gives members (.add listener)
        (.flag (!members.any (fun other => other.isSame listener))) []
  | remove (listener : Listener) :
      Gives members (.remove listener)
        (.flag (members.any (fun other => other.isSame listener))) []
  | count : Gives members .count (.count members.length) []
  | isEmpty : Gives members .isEmpty (.flag members.isEmpty) []
  | listeners : Gives members .listeners (.listeners members) []
  /-- A delivery reaches every listener, in order. -/
  | deliver (delivery : Delivery) (cause : String) (fanOut : FanOut)
      (reply : Reply) :
      Gives members (.deliver delivery cause fanOut) reply
        (members.map fun listener => (listener, delivery))
  /-- A tick that finds nobody skips its scan. -/
  | skips (nobody : members = []) :
      Gives members (.tick .checking) (.tick .skipped) []
  /-- A tick that finds somebody does not. -/
  | scans (reply : Reply) (calls : List (Listener × Delivery))
      (somebody : members ≠ []) (read : reply ≠ .tick .skipped) :
      Gives members (.tick .checking) reply calls
  /-- The scan of a tick reaches every listener, in order. -/
  | fanOut (alarms : List Alarm) (fanOut : FanOut) (reply : Reply) :
      Gives members (.tick (.delivering alarms fanOut)) reply
        (members.map fun listener => (listener, .snapshot alarms))

end Operation

namespace Hub

/-- The bid that an operation makes between two states of a hub. -/
def newBid? (hub next : Hub) (id : OperationId) : Option Bid :=
  match next.operation? id with
  | none => none
  | some operation =>
      if operation.lockSide?.isSome &&
          ((hub.operation? id).bind Operation.lockSide?).isNone then
        some (id, operation)
      else none

/-- The bids made between two states of a hub. -/
def newBids (hub next : Hub) : List Bid :=
  (List.range next.nextOperation).filterMap (hub.newBid? next)

/-- The bids made along a run, in order. -/
def bids (hub : Hub) (timeline : Timeline) : List Bid :=
  hub.observe (fun before _ step => before.newBids step.hub) timeline

end Hub

/-- The changes of membership among some bids, without those that the journal
reports as dropped. -/
def changes (journal : List Mark) (bids : List Bid) : Script :=
  bids.filterMap fun bid =>
    if .dropped bid.1 ∈ journal then none else bid.2.change?

/-- The listeners once the changes among some bids have been made one at a time,
in the order of the bids. -/
def replay (journal : List Mark) (bids : List Bid) : List Listener :=
  Script.members [] (changes journal bids)

end AlarmRelay
