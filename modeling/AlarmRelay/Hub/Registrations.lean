import AlarmRelay.Hub.Fleet
import Mathlib

/-!
# Registrations of a fleet

A registry lives as long as somebody holds it.  A listener is registered once in
every registry that has it, so the registrations of a fleet are the listeners of all
registries that are still held.
-/

set_option autoImplicit false

namespace AlarmRelay

/-- Whether somebody holds the registry of a hub: its owner, an operation in flight,
or a loop that is not over. -/
def Hub.isHeld (hub : Hub) : Bool :=
  !hub.closed || !hub.operations.isEmpty
    || hub.loops.any fun loop => !loop.isFinished

/-- The number of registrations in the registries that are held. -/
def Fleet.registrations (fleet : Fleet) : Nat :=
  ((fleet.hubs.filter Hub.isHeld).map fun hub =>
    hub.registry.listeners.length).sum

end AlarmRelay
