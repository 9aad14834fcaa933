import AlarmRelay.Proofs.FairLock
import AlarmRelay.Proofs.Hub.Turn
import AlarmRelay.Proofs.Run

/-!
# Consistent hubs

The invariant that ties the operations of a hub to its registry: only operations
in flight hold the lock or wait for it, and a fan-out that walks holds the shared
side and has a final part of the listeners before it.  Since a writer excludes
readers, nothing can change the listeners under a walk.
-/

set_option autoImplicit false

namespace AlarmRelay

/-- The operation is not walking over listeners. -/
def Operation.Calm (operation : Operation) : Prop :=
  ∀ delivery pending report,
    operation.fanOut? ≠ some (delivery, .calling pending report)

namespace Hub

/-- What every run keeps between operations, lock and listeners. -/
structure Consistent (hub : Hub) : Prop where
  exclusive : hub.registry.lock.Exclusive
  /-- Names of operations are used once. -/
  named : ∀ id ∈ hub.inFlight, id < hub.nextOperation
  /-- Nobody else knows the lock. -/
  queued : ∀ id ∈ hub.registry.lock.tickets, id ∈ hub.inFlight
  /-- Loops are inside of ticks that are in flight. -/
  ticking : ∀ id ∈ hub.scheduledTicks, id ∈ hub.inFlight
  /-- A walk holds the shared side and goes over the listeners. -/
  walking : ∀ id operation delivery pending report,
    hub.operation? id = some operation →
      operation.fanOut? = some (delivery, .calling pending report) →
        id ∈ hub.registry.lock.readers ∧ pending <:+ hub.registry.listeners

theorem consistent_alike (left right : Hub) (alike : left.Alike right)
    (consistent : right.Consistent) : left.Consistent where
  exclusive := by
    rw [alike.registry]
    exact consistent.exclusive
  named := by
    rw [alike_inFlight _ _ alike, alike.nextOperation]
    exact consistent.named
  queued := by
    rw [alike_inFlight _ _ alike, alike.registry]
    exact consistent.queued
  ticking := by
    rw [alike_inFlight _ _ alike, alike.ticks]
    exact consistent.ticking
  walking := by
    intro id operation delivery pending report found
    rw [alike_operation? _ _ alike] at found
    rw [alike.registry]
    exact consistent.walking id operation delivery pending report found

theorem consistent_create (config : HubConfig) :
    (create config).Consistent where
  exclusive := by intro ticket held; cases held
  named := by intro id member; cases member
  queued := by intro id member; cases member
  ticking := by intro id member; cases member
  walking := by intro id operation delivery pending report found; cases found

theorem absent_of_unborn (hub : Hub) (id : OperationId)
    (consistent : hub.Consistent) (unborn : hub.nextOperation ≤ id) :
    hub.operation? id = none := by
  rw [absent_iff]
  intro member
  exact absurd (consistent.named id member) (Nat.not_lt.mpr unborn)

/-! ## The registry of an operation that begins -/

theorem begin_listeners (hub : Hub) (operation : Operation) :
    (hub.begin operation).1.registry.listeners = hub.registry.listeners := by
  simp only [begin]
  cases operation.firstLock <;> rfl

theorem begin_exclusive (hub : Hub) (operation : Operation)
    (exclusive : hub.registry.lock.Exclusive) :
    (hub.begin operation).1.registry.lock.Exclusive := by
  simp only [begin]
  cases operation.firstLock with
  | none => exact exclusive
  | some mode => exact FairLock.exclusive_request _ _ mode exclusive

theorem begin_readers (hub : Hub) (operation : Operation) (id : OperationId)
    (held : id ∈ hub.registry.lock.readers) :
    id ∈ (hub.begin operation).1.registry.lock.readers := by
  simp only [begin]
  cases operation.firstLock with
  | none => exact held
  | some mode => exact FairLock.readers_request _ _ id mode held

theorem begin_tickets (hub : Hub) (operation : Operation) (id : OperationId)
    (known : id ∈ (hub.begin operation).1.registry.lock.tickets) :
    id ∈ hub.registry.lock.tickets ∨ id = hub.nextOperation := by
  simp only [begin] at known
  cases first : operation.firstLock with
  | none =>
      rw [first] at known
      exact Or.inl known
  | some mode =>
      rw [first] at known
      exact (FairLock.tickets_request _ _ id mode).mp known

/-! ## Turns -/

theorem calm_request (request : Request) : request.operation.Calm := by
  intro delivery pending report
  cases request <;> simp [Request.operation, Operation.fanOut?]

theorem consistent_begin (hub : Hub) (operation : Operation)
    (consistent : hub.Consistent) (calm : operation.Calm) :
    (hub.begin operation).1.Consistent where
  exclusive := hub.begin_exclusive operation consistent.exclusive
  named := by
    intro id member
    rw [inFlight_begin] at member
    have next : (hub.begin operation).1.nextOperation =
      hub.nextOperation + 1 := rfl
    rw [next]
    rcases List.mem_append.mp member with before | fresh
    · have older := consistent.named id before
      exact Nat.lt_succ_of_lt older
    · rw [List.mem_singleton.mp fresh]
      exact Nat.lt_succ_self _
  queued := by
    intro id known
    rw [inFlight_begin, List.mem_append, List.mem_singleton]
    rcases hub.begin_tickets operation id known with before | fresh
    · exact Or.inl (consistent.queued id before)
    · exact Or.inr fresh
  ticking := by
    intro id member
    rw [inFlight_begin]
    exact List.mem_append_left _ (consistent.ticking id member)
  walking := by
    intro id found delivery pending report present walk
    rw [operation?_begin] at present
    rw [begin_listeners]
    cases before : hub.operation? id with
    | some here =>
        rw [before, Option.some_or] at present
        cases present
        have kept := consistent.walking id _ delivery pending report before walk
        exact ⟨hub.begin_readers operation id kept.1, kept.2⟩
    | none =>
        rw [before, Option.none_or] at present
        split at present
        · cases present
          exact absurd walk (calm delivery pending report)
        · cases present

theorem consistent_forget (hub : Hub) (id : OperationId)
    (consistent : hub.Consistent) : (hub.forget id).Consistent where
  exclusive := FairLock.exclusive_leave _ _ consistent.exclusive
  named := by
    intro other member
    rw [inFlight_forget, List.mem_filter] at member
    exact consistent.named other member.1
  queued := by
    intro other known
    obtain ⟨before, apart⟩ := (FairLock.tickets_leave _ id other).mp known
    rw [inFlight_forget, List.mem_filter]
    exact ⟨consistent.queued other before, by simpa using apart⟩
  ticking := by
    intro other member
    rw [scheduledTicks_forget, List.mem_filter] at member
    rw [inFlight_forget, List.mem_filter]
    exact ⟨consistent.ticking other member.1, member.2⟩
  walking := by
    intro other operation delivery pending report found walk
    rw [operation?_forget] at found
    split at found
    · cases found
    · rename_i different
      have kept := consistent.walking other operation delivery pending report
        found walk
      exact ⟨FairLock.readers_leave _ id other kept.1 different, kept.2⟩

/-- The list of listeners may change while nobody reads. -/
theorem consistent_registry (hub : Hub) (registry : Registry)
    (consistent : hub.Consistent) (lock : registry.lock = hub.registry.lock)
    (settled : registry.listeners = hub.registry.listeners ∨
      hub.registry.lock.readers = []) :
    { hub with registry := registry }.Consistent where
  exclusive := by
    rw [lock]
    exact consistent.exclusive
  named := consistent.named
  queued := by
    rw [lock]
    exact consistent.queued
  ticking := consistent.ticking
  walking := by
    intro id operation delivery pending report found walk
    have kept := consistent.walking id operation delivery pending report found
      walk
    rcases settled with same | nobody
    · rw [lock, same]
      exact kept
    · rw [nobody] at kept
      cases kept.1

/-- A tick that a loop begins is one more operation, and the loop is inside of
it. -/
theorem consistent_tick (hub next : Hub) (first last : List OperationId)
    (consistent : hub.Consistent)
    (registry : next.registry = (hub.begin (.tick .checking)).1.registry)
    (operations : next.operations = (hub.begin (.tick .checking)).1.operations)
    (nextOperation : next.nextOperation = hub.nextOperation + 1)
    (before : hub.scheduledTicks = first ++ last)
    (after : next.scheduledTicks = first ++ hub.nextOperation :: last) :
    next.Consistent := by
  have begun := hub.consistent_begin (.tick .checking) consistent
    (by intro _ _ _ walks; cases walks)
  have names : next.inFlight = (hub.begin (.tick .checking)).1.inFlight :=
    congrArg (List.map Prod.fst) operations
  constructor
  · rw [registry]
    exact begun.exclusive
  · rw [names, nextOperation]
    exact begun.named
  · rw [names, registry]
    exact begun.queued
  · intro id member
    rw [names, inFlight_begin, List.mem_append, List.mem_singleton]
    rw [after, List.mem_append, List.mem_cons] at member
    have older : id ∈ first ++ last → id ∈ hub.inFlight := by
      intro present
      rw [← before] at present
      exact consistent.ticking id present
    rcases member with left | fresh | right
    · exact Or.inl (older (List.mem_append_left _ left))
    · exact Or.inr fresh
    · exact Or.inl (older (List.mem_append_right _ right))
  · intro id operation delivery pending report found
    have same : next.operation? id =
        (hub.begin (.tick .checking)).1.operation? id :=
      congrArg (List.lookup id) operations
    rw [same] at found
    rw [registry]
    exact begun.walking id operation delivery pending report found

/-- An operation in flight may move on, taking its own place at the lock with
it, as long as it does not walk without the shared side. -/
theorem consistent_update (hub : Hub) (id : OperationId) (registry : Registry)
    (operation next : Operation) (consistent : hub.Consistent)
    (found : hub.operation? id = some operation)
    (exclusive : registry.lock.Exclusive)
    (listeners : registry.listeners = hub.registry.listeners)
    (tickets : ∀ other ∈ registry.lock.tickets,
      other ∈ hub.registry.lock.tickets ∨ other = id)
    (readers : ∀ other ∈ hub.registry.lock.readers, other ≠ id →
      other ∈ registry.lock.readers)
    (walk : ∀ delivery pending report,
      next.fanOut? = some (delivery, .calling pending report) →
        id ∈ registry.lock.readers ∧ pending <:+ registry.listeners) :
    ({ hub with registry := registry }.putOperation id next).Consistent where
  exclusive := exclusive
  named := by
    rw [inFlight_putOperation]
    exact consistent.named
  queued := by
    intro other known
    rw [inFlight_putOperation]
    rcases tickets other known with before | same
    · exact consistent.queued other before
    · rw [same]
      exact (hub.mem_inFlight id).mpr ⟨operation, found⟩
  ticking := by
    rw [inFlight_putOperation]
    exact consistent.ticking
  walking := by
    intro other here delivery pending report present calling
    rw [operation?_putOperation] at present
    split at present
    · rename_i same
      rw [same]
      obtain ⟨_, _, moved⟩ := Option.map_eq_some_iff.mp present
      rw [← moved] at calling
      exact walk delivery pending report calling
    · rename_i different
      have kept := consistent.walking other here delivery pending report present
        calling
      refine ⟨readers other kept.1 different, ?_⟩
      have same : registry.listeners = hub.registry.listeners := listeners
      exact same.symm ▸ kept.2

/-- An answer leaves the lock as it is, and the listeners too unless a writer
holds the lock. -/
theorem answer_registry (hub : Hub) (id : OperationId) (operation : Operation)
    (registry : Registry) (reply : Reply)
    (answer : Answer hub id operation registry reply) :
    registry.lock = hub.registry.lock ∧
      (registry.listeners = hub.registry.listeners ∨
        hub.registry.lock.writer = some id) := by
  cases answer with
  | joins listener held =>
      refine ⟨?_, Or.inr (by simpa [FairLock.holdsExclusive] using held)⟩
      unfold Registry.add
      split <;> rfl
  | parts listener held =>
      exact ⟨rfl, Or.inr (by simpa [FairLock.holdsExclusive] using held)⟩
  | reads _ _ held read => exact ⟨rfl, Or.inl rfl⟩
  | exits loop isOver => exact ⟨rfl, Or.inl rfl⟩
  | ends _ delivery report _ before reported => exact ⟨rfl, Or.inl rfl⟩
  | fails message => exact ⟨rfl, Or.inl rfl⟩

theorem calm_of_awaiting (operation : Operation) (delivery : Delivery)
    (waits : operation.fanOut? = some (delivery, .awaitingLock)) :
    operation.Calm := by
  intro other pending report walks
  rw [waits] at walks
  cases walks

theorem holdsShared_iff (hub : Hub) (id : OperationId) :
    hub.registry.lock.holdsShared id = true ↔
      id ∈ hub.registry.lock.readers := by
  simp [FairLock.holdsShared]

theorem consistent_turn (hub : Hub) (event : HubEvent) (step : Progress)
    (consistent : hub.Consistent) (turn : Turn hub step event) :
    step.hub.Consistent := by
  cases turn with
  | rests _ same idle unheard =>
      exact consistent_alike _ _ same consistent
  | asks request same silent =>
      exact consistent_alike _ _ same
        (hub.consistent_begin _ consistent (calm_request request))
  | stops loop owned same silent =>
      exact consistent_alike _ _ same
        (hub.consistent_begin _ consistent (by intro _ _ _ walks; cases walks))
  | ticks loop first last live registry operations nextOperation before after
      idle silent =>
      exact hub.consistent_tick step.hub first last consistent registry
        operations nextOperation before after
  | answers _ id operation registry reply drives found answer same replied =>
      obtain ⟨lock, settled⟩ := hub.answer_registry id operation registry reply
        answer
      apply consistent_alike _ _ same
      apply consistent_forget
      apply consistent_registry hub registry consistent lock
      -- An answer that changes the listeners comes from a writer, so nobody reads.
      rcases settled with kept | written
      · exact Or.inl kept
      · exact Or.inr (consistent.exclusive id written)
  | fails id outcome message found same replied =>
      exact consistent_alike _ _ same (hub.consistent_forget id consistent)
  | scans _ id drives found held somebody same silent =>
      apply consistent_alike _ _ same
      apply hub.consistent_update id (hub.registry.leave id) _ _ consistent found
      · exact FairLock.exclusive_leave _ _ consistent.exclusive
      · rfl
      · intro other known
        exact Or.inl ((FairLock.tickets_leave _ id other).mp known).1
      · intro other reads different
        exact FairLock.readers_leave _ id other reads different
      · intro _ _ _ walks
        cases walks
  | fetches id alarms found same silent =>
      apply consistent_alike _ _ same
      apply hub.consistent_update id (hub.registry.request id .shared) _ _
        consistent found
      · exact FairLock.exclusive_request _ _ _ consistent.exclusive
      · rfl
      · intro other known
        exact (FairLock.tickets_request _ id other .shared).mp known
      · intro other reads different
        exact FairLock.readers_request _ id other .shared reads
      · intro _ _ _ walks
        cases walks
  | walks _ id operation next delivery drives found held before after same
      silent =>
      apply consistent_alike _ _ same
      apply hub.consistent_update id hub.registry _ _ consistent found
        consistent.exclusive rfl (fun other known => Or.inl known)
        (fun other reads _ => reads)
      intro _ pending report walks
      rw [after] at walks
      cases walks
      exact ⟨(hub.holdsShared_iff id).mp held, List.suffix_refl _⟩
  | hears id operation next delivery listener rest report outcome found before
      after same silent =>
      apply consistent_alike _ _ same
      apply hub.consistent_update id hub.registry _ _ consistent found
        consistent.exclusive rfl (fun other known => Or.inl known)
        (fun other reads _ => reads)
      intro _ pending counted walks
      rw [after] at walks
      cases walks
      obtain ⟨reads, final⟩ := consistent.walking id operation delivery _ report
        found before
      exact ⟨reads, (List.suffix_cons listener rest).trans final⟩
  | drops id caller same silent =>
      exact consistent_alike _ _ same (hub.consistent_forget id consistent)
  | loses ids ticking same silent =>
      apply consistent_alike _ _ same
      clear same ticking
      induction ids generalizing hub with
      | nil => exact consistent
      | cons id rest ih => exact ih _ (hub.consistent_forget id consistent)

theorem consistent_run (config : HubConfig) (timeline : Timeline) (hub : Hub)
    (reached : (create config).run timeline = some hub) : hub.Consistent :=
  run_induction
    (fun before now event step consistent reacted =>
      before.consistent_turn event step consistent
        (before.react_turn now event step reacted))
    (consistent_create config) reached

end Hub
end AlarmRelay
