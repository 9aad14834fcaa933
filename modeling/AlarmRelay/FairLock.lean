/-!
# A fair reader-writer lock

Requests are served first come, first served.  The shared side is granted at
once while nobody holds or waits for the exclusive side; a reader behind a
waiting writer waits, and a writer waits for everything granted or queued before
it.  Giving up a held side and giving up a place in the queue are one operation.
-/

set_option autoImplicit false

namespace AlarmRelay

/-- Names one request of a lock. -/
abbrev Ticket := Nat

inductive LockMode where
  | shared
  | exclusive
  deriving DecidableEq, Repr

/-- A request that waits in the queue. -/
structure LockRequest where
  ticket : Ticket
  mode : LockMode
  deriving DecidableEq, Repr

/-- Holders of the lock and the queue of those that wait. -/
structure FairLock where
  /-- Holders of the shared side, in the order of their admission. -/
  readers : List Ticket
  writer : Option Ticket
  /-- Requests that wait, the oldest first. -/
  waiting : List LockRequest
  deriving DecidableEq, Repr

namespace FairLock

def free : FairLock := ⟨[], none, []⟩

instance : Inhabited FairLock := ⟨free⟩

/-- Grant the shared side to the requests at the head of a queue, up to the
first writer, which enters when no reader holds the lock. -/
def grantFrom (readers : List Ticket) : List LockRequest → FairLock
  | [] => ⟨readers, none, []⟩
  | ⟨ticket, .shared⟩ :: rest => grantFrom (readers ++ [ticket]) rest
  | ⟨ticket, .exclusive⟩ :: rest =>
      if readers.isEmpty then ⟨[], some ticket, rest⟩
      else ⟨readers, none, ⟨ticket, .exclusive⟩ :: rest⟩

/-- Grant everything that can be granted now. -/
def grantQueued (lock : FairLock) : FairLock :=
  match lock.writer with
  | some _ => lock
  | none => grantFrom lock.readers lock.waiting

/-- Join the end of the queue and enter at once if nothing forbids it. -/
def request (lock : FairLock) (ticket : Ticket) (mode : LockMode) : FairLock :=
  grantQueued { lock with waiting := lock.waiting ++ [⟨ticket, mode⟩] }

def leave (lock : FairLock) (ticket : Ticket) : FairLock :=
  grantQueued
    { readers := lock.readers.filter (fun reader => reader != ticket)
      writer := lock.writer.filter (fun writer => writer != ticket)
      waiting := lock.waiting.filter (fun entry => entry.ticket != ticket) }

def holdsShared (lock : FairLock) (ticket : Ticket) : Bool :=
  lock.readers.contains ticket

def holdsExclusive (lock : FairLock) (ticket : Ticket) : Bool :=
  lock.writer == some ticket

/-- Whether the shared side could be taken at once. -/
def isReadable (lock : FairLock) : Bool :=
  lock.writer.isNone && lock.waiting.isEmpty

end FairLock
end AlarmRelay
