import AlarmRelay.Proofs.Hub.Placed
import AlarmRelay.Proofs.Hub.Replay

/-!
# Everybody in line

At every hub that a run reaches, those that ask for the lock and those that stand in
its line are the same, and nobody stands there twice.  So whoever stands first holds
the lock, and an event admits an operation at most once.
-/

set_option autoImplicit false

namespace AlarmRelay

namespace FairLock

theorem readers_nodup (lock : FairLock)
    (single : (lock.line.map LockRequest.ticket).Nodup) :
    lock.readers.Nodup := by
  simp only [line, List.map_append, List.map_map, Function.comp_def,
    List.map_id', List.nodup_append] at single
  exact single.1.1

/-- Whoever stands first in the line holds the side that it asked for. -/
theorem line_front (lock : FairLock) (front : LockRequest)
    (others : List LockRequest) (occupied : lock.Occupied)
    (split : lock.line = front :: others) :
    front.mode = .shared ∧ lock.holdsShared front.ticket = true ∨
      front.mode = .exclusive ∧ lock.holdsExclusive front.ticket = true := by
  obtain ⟨readers, writer, waiting⟩ := lock
  cases readers with
  | cons reader more =>
      cases split
      exact Or.inl ⟨rfl, by simp [holdsShared]⟩
  | nil =>
      cases writer with
      | some holder =>
          cases split
          exact Or.inr ⟨rfl, by simp [holdsExclusive]⟩
      | none =>
          have queued : waiting ≠ [] := by
            rintro rfl
            cases split
          obtain ⟨ticket, reads | writes⟩ := occupied queued
          · cases reads
          · cases writes

end FairLock

namespace Hub

/-- What is known of the line at the lock of a hub that a run reaches. -/
structure Lined (hub : Hub) : Prop where
  consistent : hub.Consistent
  occupied : hub.registry.lock.Occupied
  /-- Whoever asks for a side of the lock stands in the line. -/
  asks : ∀ id operation mode, hub.operation? id = some operation →
    operation.lockSide? = some mode →
      (⟨id, mode⟩ : LockRequest) ∈ hub.registry.lock.line
  /-- Nobody stands twice in the line. -/
  single : (hub.registry.lock.line.map LockRequest.ticket).Nodup
  /-- Whoever stands in the line asks for the lock. -/
  entitled : ∀ entry ∈ hub.registry.lock.line, ∃ operation,
    hub.operation? entry.ticket = some operation ∧
      operation.lockSide? = some entry.mode

theorem lined_run (config : HubConfig) (valid : config.validate = .ok ())
    (timeline : Timeline) (hub : Hub)
    (reached : (create config).run timeline = some hub) : hub.Lined := by
  obtain ⟨slots, _, ledger⟩ := ledger_run config timeline hub reached
  have placed := placed_run config valid timeline hub reached
  refine {
    consistent := consistent_run config timeline hub reached
    occupied := placed.occupied
    asks := placed.asks
    single := ledger.line_nodup
    entitled := ?_ }
  intro entry member
  obtain ⟨slot, present, stands, named, asks⟩ := ledger.slot_of_line entry member
  obtain ⟨operation, found, becomes, _⟩ :=
    ledger.standing_asks slot present stands
  refine ⟨operation, named ▸ found, ?_⟩
  rw [slot.bid.2.becomes_lockSide operation becomes, asks]

section

variable (hub : Hub) (lined : hub.Lined) (id : OperationId)

include lined

/-- A holder of the shared side is in flight and asked for it. -/
theorem reads_asks (reads : id ∈ hub.registry.lock.readers) :
    ∃ operation, hub.operation? id = some operation ∧
      operation.lockSide? = some .shared :=
  lined.entitled _ (FairLock.mem_line_readers _ id reads)

/-- An operation that asks for no side of the lock holds none. -/
theorem unheld_of_plain (operation : Operation)
    (found : hub.operation? id = some operation)
    (plain : operation.lockSide? = none) :
    id ∉ hub.registry.lock.readers := by
  intro reads
  obtain ⟨asking, present, side⟩ := hub.reads_asks lined id reads
  rw [found] at present
  cases present
  rw [plain] at side
  cases side

theorem unheld_of_absent (absent : hub.operation? id = none) :
    id ∉ hub.registry.lock.readers := by
  intro reads
  obtain ⟨asking, present, _⟩ := hub.reads_asks lined id reads
  rw [absent] at present
  cases present

end

/-- A list without repeats has one place at most for each of its members. -/
theorem filterMap_single {α : Type} (names : List OperationId)
    (single : names.Nodup) (id : OperationId) (shown : α) :
    (names.filterMap fun other => if other = id then some shown else none) =
      if id ∈ names then [shown] else [] := by
  induction names with
  | nil => rfl
  | cons name rest ih =>
      obtain ⟨fresh, others⟩ := List.nodup_cons.mp single
      have later := ih others
      by_cases here : name = id
      · subst here
        rw [if_neg fresh] at later
        simp [later]
      · simp [here, Ne.symm here, later]

/-- An event admits an operation once where it becomes a holder of the shared side,
and at no other time. -/
theorem marks_granted (hub : Hub) (event : HubEvent) (step : Progress)
    (next : step.hub.Lined) (id : OperationId) :
    Mark.admissions id (hub.marks event step) =
      if id ∈ step.hub.registry.lock.readers ∧
          id ∉ hub.registry.lock.readers then
        [step.hub.registry.listeners]
      else [] := by
  have ended : Mark.admissions id (hub.endMarks event) = [] := by
    cases event <;> simp [endMarks, Mark.admissions, List.filterMap_map]
  have granted := (step.hub.registry.lock.readers_nodup next.single).filter
    fun other => !hub.registry.lock.readers.contains other
  have once := filterMap_single _ granted id step.hub.registry.listeners
  rw [Mark.admissions] at ended ⊢
  rw [marks_filterMap, ended]
  cases step.reply <;> simp [once]

end Hub
end AlarmRelay
