import AlarmRelay.FairLock
import AlarmRelay.Listener

/-!
# The listener registry

An ordered set of listeners, told apart by identity, under one fair
reader-writer lock.  Registration order is the order of every fan-out.
-/

set_option autoImplicit false

namespace AlarmRelay

/-- Registered listeners in registration order, and the lock that guards them. -/
structure Registry where
  lock : FairLock
  listeners : List Listener
  deriving DecidableEq, Repr

namespace Registry

def empty : Registry := ⟨.free, []⟩

instance : Inhabited Registry := ⟨empty⟩

def contains (registry : Registry) (listener : Listener) : Bool :=
  registry.listeners.any (fun other => other.isSame listener)

/-- Add a listener at the end unless it is registered already. -/
def add (registry : Registry) (listener : Listener) : Registry :=
  if registry.contains listener then registry
  else { registry with listeners := registry.listeners ++ [listener] }

/-- Remove a listener; the order of all others is kept. -/
def remove (registry : Registry) (listener : Listener) : Registry :=
  { registry with
    listeners := registry.listeners.eraseP (fun other => other.isSame listener) }

/-- What an add shows: a refusal is logged, a success is logged and measured. -/
def addSignals (registry : Registry) (listener : Listener) : List Signal :=
  if registry.contains listener then [.log (.listenerKnown listener.name)]
  else [.log (.listenerRegistered listener.name), .metric (.listeners 1)]

/-- What a removal shows: a success is logged and measured. -/
def removeSignals (registry : Registry) (listener : Listener) : List Signal :=
  if registry.contains listener then
    [.log (.listenerUnregistered listener.name), .metric (.listeners (-1))]
  else []

/-- What the end of the registry shows: its listeners leave the gauge. -/
def releaseSignals (registry : Registry) : List Signal :=
  match registry.listeners.length with
  | 0 => []
  | count => [.metric (.listeners (-(count : Int)))]

def request (registry : Registry) (ticket : Ticket) (mode : LockMode) :
    Registry :=
  { registry with lock := registry.lock.request ticket mode }

def leave (registry : Registry) (ticket : Ticket) : Registry :=
  { registry with lock := registry.lock.leave ticket }

/-- The registry, printed for inspection: its size, if it can be read at once. -/
def inspect (registry : Registry) : String :=
  let size :=
    if registry.lock.isReadable then
      "Some(" ++ toString registry.listeners.length ++ ")"
    else "None"
  "ListenerRegistry \x7b listeners: " ++ size ++ " \x7d"

end Registry
end AlarmRelay
