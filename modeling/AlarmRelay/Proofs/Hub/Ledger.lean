import AlarmRelay.Proofs.Hub.Line
import AlarmRelay.Proofs.Hub.Told
import Mathlib.Data.List.Basic

/-!
# The ledger of bids

The bids of a run in the order in which they were made, each with a note whether
it still stands in the line at the lock.  Changes of membership are made in that
order: nobody who has bid before a bid that is granted still means to change the
listeners, and nobody behind it has changed them.  So the list that it is granted
over is what the changes before it come to one after the other.
-/

set_option autoImplicit false

namespace AlarmRelay

theorem Script.members_append (before : List Listener) (first second : Script) :
    members before (first ++ second) = members (members before first) second := by
  induction first generalizing before with
  | nil => rfl
  | cons call rest ih => exact ih _

/-- A bid and whether it still stands in the line. -/
structure Slot where
  bid : Bid
  stands : Bool

namespace Slot

def request? (slot : Slot) : Option LockRequest :=
  if slot.stands then slot.bid.request? else none

/-- The slot after the operations `gone` went out of the line. -/
def leave (gone : List OperationId) (slot : Slot) : Slot :=
  { slot with stands := slot.stands && !gone.contains slot.bid.1 }

/-- The change of membership that the bid has made. -/
def made? (journal : List Mark) (slot : Slot) : Option ScriptCall :=
  if slot.stands = true ∨ .dropped slot.bid.1 ∈ journal then none
  else slot.bid.2.change?

theorem leave_stands (gone : List OperationId) (slot : Slot) :
    (slot.leave gone).stands = true ↔
      slot.stands = true ∧ slot.bid.1 ∉ gone := by
  simp [leave]

@[simp] theorem leave_bid (gone : List OperationId) (slot : Slot) :
    (slot.leave gone).bid = slot.bid := rfl

theorem gone_of_leave (gone : List OperationId) (slot : Slot)
    (stood : slot.stands = true) (left : (slot.leave gone).stands = false) :
    slot.bid.1 ∈ gone := by
  simpa [leave, stood] using left

theorem made?_standing (journal : List Mark) (slot : Slot)
    (stands : slot.stands = true) : slot.made? journal = none := by
  simp [made?, stands]

/-- What has been made without dropped bids is what all of them mean to make. -/
theorem made?_settled (journal : List Mark) (slot : Slot)
    (settled : slot.bid.2.change?.isSome = true → slot.stands = false) :
    slot.made? journal =
      if .dropped slot.bid.1 ∈ journal then none else slot.bid.2.change? := by
  cases changes : slot.bid.2.change? with
  | none => simp [made?, changes]
  | some change => simp [made?, changes, settled]

theorem filter_request? (gone : List OperationId) (slot : Slot) :
    (slot.request?.filter fun entry => !gone.contains entry.ticket) =
      (slot.leave gone).request? := by
  obtain ⟨bid, stands⟩ := slot
  cases stands with
  | false => rfl
  | true =>
      simp only [request?, leave, if_true, Bid.request?, Bool.true_and]
      cases bid.2.lockSide? with
      | none => simp
      | some mode =>
          by_cases member : bid.1 ∈ gone <;> simp [Option.filter, member]

end Slot

/-- What a bid that no longer stands came to over the listeners `members`. -/
structure Bid.Served (hub : Hub) (journal : List Mark) (members : List Listener)
    (bid : Bid) : Prop where
  gives : ∀ reply, .returned bid.1 reply ∈ journal →
    bid.2.Gives members reply (Mark.calls bid.1 journal)
  /-- A tick goes on because it found somebody. -/
  finds : bid.1 ∈ hub.inFlight → members ≠ []

/-- The bids of a run, and what its hub and its journal say about them. -/
structure Hub.Ledger (hub : Hub) (journal : List Mark) (slots : List Slot) :
    Prop where
  line : hub.registry.lock.line = slots.filterMap Slot.request?
  named : ∀ slot ∈ slots, slot.bid.1 < hub.nextOperation
  asks : ∀ slot ∈ slots, slot.bid.2.lockSide?.isSome = true
  /-- Whoever stands in the line waits for the lock or holds it. -/
  standing : ∀ slot ∈ slots, slot.stands = true →
    ∃ operation, hub.operation? slot.bid.1 = some operation ∧
      slot.bid.2.Becomes operation
  /-- Whoever stands there no more is over, or is a tick past its first bid. -/
  past : ∀ slot ∈ slots, slot.stands = false →
    ∀ operation, hub.operation? slot.bid.1 = some operation →
      slot.bid.2 = .tick .checking ∧ operation.Further
  /-- Nobody stands twice. -/
  apart : slots.Pairwise fun first second =>
    first.bid.1 = second.bid.1 → first.stands = false
  /-- No change has been made behind a bid that stands. -/
  ahead : slots.Pairwise fun first second =>
    first.stands = true → second.made? journal = none
  /-- Nobody has been served behind a change that is still to be made. -/
  behind : slots.Pairwise fun first second =>
    first.bid.2.change?.isSome = true → first.stands = true →
      second.stands = true ∨ .dropped second.bid.1 ∈ journal
  members : hub.registry.listeners =
    Script.members [] (slots.filterMap (Slot.made? journal))
  served : ∀ before slot after, slots = before ++ slot :: after →
    slot.stands = false → .dropped slot.bid.1 ∉ journal →
      slot.bid.Served hub journal (replay journal (before.map Slot.bid))

namespace Hub.Ledger

theorem of_create (config : HubConfig) : (create config).Ledger [] [] where
  line := rfl
  named := by intro slot member; cases member
  asks := by intro slot member; cases member
  standing := by intro slot member; cases member
  past := by intro slot member; cases member
  apart := List.Pairwise.nil
  ahead := List.Pairwise.nil
  behind := List.Pairwise.nil
  members := rfl
  served := by
    intro before slot after split
    cases before <;> cases split

section

variable {hub : Hub} {journal : List Mark} {slots : List Slot}
  (ledger : hub.Ledger journal slots)

include ledger

theorem standing_asks (slot : Slot) (member : slot ∈ slots)
    (stands : slot.stands = true) :
    ∃ operation, hub.operation? slot.bid.1 = some operation ∧
      slot.bid.2.Becomes operation ∧ operation.lockSide?.isSome = true := by
  obtain ⟨operation, found, becomes⟩ := ledger.standing slot member stands
  refine ⟨operation, found, becomes, ?_⟩
  rw [slot.bid.2.becomes_lockSide operation becomes]
  exact ledger.asks slot member

/-- A bid for a change that stands is what it was when it was made. -/
theorem standing_change (slot : Slot) (member : slot ∈ slots)
    (stands : slot.stands = true)
    (changes : slot.bid.2.change?.isSome = true) :
    hub.operation? slot.bid.1 = some slot.bid.2 := by
  obtain ⟨operation, found, becomes⟩ := ledger.standing slot member stands
  cases becomes with
  | same => exact found
  | carries _ delivery first last before after =>
      have plain := slot.bid.2.change?_shared
        (slot.bid.2.lockSide?_fanOut delivery first before)
      rw [plain] at changes
      cases changes

theorem past_change (slot : Slot) (member : slot ∈ slots)
    (stands : slot.stands = false)
    (changes : slot.bid.2.change?.isSome = true) :
    hub.operation? slot.bid.1 = none := by
  cases found : hub.operation? slot.bid.1 with
  | none => rfl
  | some operation =>
      rw [(ledger.past slot member stands operation found).1] at changes
      cases changes

theorem mem_line (slot : Slot) (member : slot ∈ slots)
    (stands : slot.stands = true) :
    ∃ mode, slot.bid.2.lockSide? = some mode ∧
      slot.request? = some ⟨slot.bid.1, mode⟩ := by
  obtain ⟨mode, asks⟩ := Option.isSome_iff_exists.mp (ledger.asks slot member)
  exact ⟨mode, asks, by simp [Slot.request?, stands, Bid.request?, asks]⟩

theorem slot_of_line (entry : LockRequest)
    (member : entry ∈ hub.registry.lock.line) :
    ∃ slot ∈ slots, slot.stands = true ∧ slot.bid.1 = entry.ticket ∧
      slot.bid.2.lockSide? = some entry.mode := by
  rw [ledger.line, List.mem_filterMap] at member
  obtain ⟨slot, present, request⟩ := member
  refine ⟨slot, present, ?_⟩
  simp only [Slot.request?, Option.ite_none_right_eq_some, Bid.request?,
    Option.map_eq_some_iff] at request
  obtain ⟨stands, mode, asks, rfl⟩ := request
  exact ⟨stands, rfl, asks⟩

theorem line_nodup : (hub.registry.lock.line.map LockRequest.ticket).Nodup := by
  rw [ledger.line, List.map_filterMap, List.Nodup, List.pairwise_filterMap]
  apply ledger.apart.imp
  intro first second apart one shown other also same
  subst same
  simp only [Slot.request?, Bid.request?, Option.map_eq_some_iff,
    Option.ite_none_right_eq_some] at shown also
  obtain ⟨_, ⟨stands, _, _, rfl⟩, rfl⟩ := shown
  obtain ⟨_, ⟨_, _, _, rfl⟩, named⟩ := also
  rw [apart named.symm] at stands
  cases stands

/-- Nobody who stands before a bid that is granted stands in its way. -/
theorem overtakes (consistent : hub.Consistent) :
    slots.Pairwise fun first second =>
      first.stands = true → second.stands = true →
        hub.registry.lock.writer ≠ some second.bid.1 ∧
          (first.bid.2.change?.isSome = true →
            second.bid.1 ∉ hub.registry.lock.readers) := by
  have order := FairLock.line_ahead _ consistent.exclusive ledger.line_nodup
  rw [ledger.line, List.pairwise_filterMap] at order
  apply order.imp_of_mem
  intro first second one other ahead stands also
  obtain ⟨mode, asks, shown⟩ := ledger.mem_line first one stands
  obtain ⟨_, _, next⟩ := ledger.mem_line second other also
  obtain ⟨writer, readers⟩ := ahead _ shown _ next
  refine ⟨writer, ?_⟩
  intro changes
  obtain ⟨change, wanted⟩ := Option.isSome_iff_exists.mp changes
  rw [first.bid.2.lockSide?_change change wanted] at asks
  cases asks
  exact readers rfl

theorem unmade_behind (before after : List Slot) (slot : Slot)
    (split : slots = before ++ slot :: after) (stands : slot.stands = true) :
    after.filterMap (Slot.made? journal) = [] := by
  rw [List.filterMap_eq_nil_iff]
  intro other member
  have order := ledger.ahead
  rw [split, List.pairwise_append, List.pairwise_cons] at order
  exact order.2.1.1 other member stands

/-- While a bid stands and every change before it has been made or dropped, the
listeners are what those changes come to. -/
theorem members_at (before after : List Slot) (slot : Slot)
    (split : slots = before ++ slot :: after) (stands : slot.stands = true)
    (settled : ∀ other ∈ before, other.bid.2.change?.isSome = true →
      other.stands = false) :
    hub.registry.listeners = replay journal (before.map Slot.bid) := by
  have own := slot.made?_standing journal stands
  rw [ledger.members, split, List.filterMap_append, List.filterMap_cons_none own,
    ledger.unmade_behind before after slot split stands, List.append_nil, replay,
    changes, List.filterMap_map]
  congr 1
  apply List.filterMap_congr
  intro other member
  exact other.made?_settled journal (settled other member)

/-- Every change before a holder of the lock has been made or dropped. -/
theorem settled_before (consistent : hub.Consistent) (before after : List Slot)
    (slot : Slot) (split : slots = before ++ slot :: after)
    (stands : slot.stands = true)
    (holds : slot.bid.1 ∈ hub.registry.lock.readers ∨
      hub.registry.lock.writer = some slot.bid.1) :
    ∀ other ∈ before, other.bid.2.change?.isSome = true →
      other.stands = false := by
  intro other member changes
  have order := ledger.overtakes consistent
  rw [split, List.pairwise_append] at order
  rw [← Bool.not_eq_true]
  intro standing
  obtain ⟨writer, readers⟩ := order.2.2 other member slot List.mem_cons_self
    standing stands
  rcases holds with reads | writes
  · exact readers changes reads
  · exact writer writes

end

end Hub.Ledger
end AlarmRelay
