import AlarmRelay.Hub.Bids
import AlarmRelay.Hub.Fleet

/-!
# Rosters

The adds and removals that took effect along a run, and the listeners that such a
history leaves registered.  A roster is read off the history alone: no list is kept
up to date along the way.
-/

set_option autoImplicit false

namespace AlarmRelay

/-- Whether a call adds or removes the listener of an identity. -/
def ScriptCall.concerns (id : Nat) : ScriptCall → Bool
  | .subscribe listener | .unsubscribe listener => listener.id == id
  | .publish _ | .snapshot _ => false

/-- The listeners whose last change is an add, in the order of these adds. -/
def Script.roster : Script → List Listener
  | [] => []
  | .subscribe listener :: rest =>
      if rest.any (ScriptCall.concerns listener.id) then roster rest
      else listener :: roster rest
  | _ :: rest => roster rest

/-- The change that an add or a removal has made; a refused one has made none. -/
def Operation.effect? : Operation × Reply → Option ScriptCall
  | (operation, .flag true) => operation.change?
  | _ => none

namespace Hub

/-- The identities of the registered listeners, in the order of registration. -/
def identities (hub : Hub) : List Nat :=
  hub.registry.listeners.map Listener.id

/-- The changes of membership that took effect along a run, in order. -/
def effects (hub : Hub) (timeline : Timeline) : Script :=
  (hub.observe answered timeline).filterMap Operation.effect?

end Hub
end AlarmRelay
