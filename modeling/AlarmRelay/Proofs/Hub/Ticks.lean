import AlarmRelay.Proofs.Hub.Consistent
import AlarmRelay.Proofs.Hub.Loops

/-!
# Scheduled ticks along a run

An event lets some operations go or lets one begin, and loops stay inside of
those of their ticks that are still in flight.  So every tick that a loop began
and that is in flight is one that its loop is inside of, and since loops exclude
each other there is at most one.
-/

set_option autoImplicit false

namespace AlarmRelay.Hub

/-- How the operations in flight and the ticks of loops change in one event. -/
inductive Flow (hub next : Hub) : Prop where
  /-- Some operations go, and the loops inside of them are so no more. -/
  | ebbs (gone : List OperationId)
      (names : next.nextOperation = hub.nextOperation)
      (inFlight : ∀ id, id ∈ next.inFlight ↔ id ∈ hub.inFlight ∧ id ∉ gone)
      (ticks : ∀ id, id ∈ next.scheduledTicks ↔
        id ∈ hub.scheduledTicks ∧ id ∉ gone)
  /-- A caller's operation begins. -/
  | grows (names : next.nextOperation = hub.nextOperation + 1)
      (inFlight : next.inFlight = hub.inFlight ++ [hub.nextOperation])
      (ticks : next.scheduledTicks = hub.scheduledTicks)
  /-- A live loop begins a tick. -/
  | ticks (loop : LoopId) (live : hub.isLive loop = true)
      (names : next.nextOperation = hub.nextOperation + 1)
      (inFlight : next.inFlight = hub.inFlight ++ [hub.nextOperation])
      (ticks : ∀ id, id ∈ next.scheduledTicks ↔
        id ∈ hub.scheduledTicks ∨ id = hub.nextOperation)

theorem flow_same (hub next : Hub) (same : next.Alike hub) :
    Flow hub next := by
  refine .ebbs [] same.nextOperation ?_ ?_
  · simp [alike_inFlight _ _ same]
  · simp [same.ticks]

theorem flow_begin (hub next : Hub) (operation : Operation)
    (same : next.Alike (hub.begin operation).1) : Flow hub next := by
  refine .grows same.nextOperation ?_ ?_
  · rw [alike_inFlight _ _ same, inFlight_begin]
  · exact same.ticks

theorem flow_update (hub next : Hub) (id : OperationId) (registry : Registry)
    (operation : Operation)
    (same : next.Alike
      ({ hub with registry := registry }.putOperation id operation)) :
    Flow hub next := by
  refine .ebbs [] same.nextOperation ?_ ?_
  · intro other
    rw [alike_inFlight _ _ same, inFlight_putOperation]
    simp [Hub.inFlight]
  · intro other
    rw [same.ticks]
    simp [putOperation, scheduledTicks]

theorem flow_forget (hub next : Hub) (id : OperationId) (registry : Registry)
    (same : next.Alike ({ hub with registry := registry }.forget id)) :
    Flow hub next := by
  refine .ebbs [id] same.nextOperation ?_ ?_
  · intro other
    rw [alike_inFlight _ _ same, inFlight_forget]
    simp [Hub.inFlight]
  · intro other
    rw [same.ticks, scheduledTicks_forget]
    simp [scheduledTicks]

theorem turn_flow (hub : Hub) (event : HubEvent) (step : Progress)
    (turn : Turn hub step event) : Flow hub step.hub := by
  cases turn with
  | rests _ same idle unheard => exact flow_same _ _ same
  | asks request same silent => exact flow_begin _ _ request.operation same
  | stops loop owned same silent => exact flow_begin _ _ (.awaitExit loop) same
  | ticks loop first last live registry operations nextOperation before after
      idle silent =>
      apply Flow.ticks loop live nextOperation
      · have names : step.hub.inFlight =
            (hub.begin (.tick .checking)).1.inFlight :=
          congrArg (List.map Prod.fst) operations
        rw [names, inFlight_begin]
      · intro id
        rw [after, before, List.mem_append, List.mem_cons, List.mem_append,
          or_assoc, @or_comm (id ∈ last)]
  | answers _ id operation registry reply drives found answer same replied =>
      exact flow_forget _ _ id registry same
  | fails id outcome message found same replied =>
      exact flow_forget _ _ id hub.registry same
  | scans _ id drives found held somebody same silent =>
      exact flow_update _ _ id (hub.registry.leave id) _ same
  | fetches id alarms found same silent =>
      exact flow_update _ _ id (hub.registry.request id .shared) _ same
  | walks _ id operation next delivery drives found held before after same
      silent =>
      exact flow_update _ _ id hub.registry next same
  | hears id operation next delivery listener rest report outcome found before
      after same silent =>
      exact flow_update _ _ id hub.registry next same
  | drops id caller same silent => exact flow_forget _ _ id hub.registry same
  | loses ids ticking same silent =>
      apply Flow.ebbs ids
      · rw [same.nextOperation, nextOperation_forgotten]
      · intro id
        rw [alike_inFlight _ _ same, inFlight_forgotten]
      · intro id
        rw [same.ticks, scheduledTicks_forgotten]

theorem react_flow (hub : Hub) (now : Instant) (event : HubEvent)
    (step : Progress) (reacted : hub.react now event = some step) :
    Flow hub step.hub :=
  hub.turn_flow event step (hub.react_turn now event step reacted)

/-- Names are given out in order, and an operation in flight after an event was
so before, unless its name is new. -/
theorem flow_names (hub next : Hub) (flow : Flow hub next) :
    hub.nextOperation ≤ next.nextOperation ∧
      ∀ id ∈ next.inFlight, id ∈ hub.inFlight ∨ hub.nextOperation ≤ id := by
  have grown : next.nextOperation = hub.nextOperation + 1 →
      next.inFlight = hub.inFlight ++ [hub.nextOperation] →
        hub.nextOperation ≤ next.nextOperation ∧
          ∀ id ∈ next.inFlight, id ∈ hub.inFlight ∨ hub.nextOperation ≤ id := by
    intro names inFlight
    rw [names, inFlight]
    refine ⟨Nat.le_succ _, ?_⟩
    intro id member
    rcases List.mem_append.mp member with before | fresh
    · exact Or.inl before
    · exact Or.inr (Nat.le_of_eq (List.mem_singleton.mp fresh).symm)
  cases flow with
  | ebbs gone names inFlight ticks =>
      rw [names]
      exact ⟨Nat.le_refl _, fun id member => Or.inl ((inFlight id).mp member).1⟩
  | grows names inFlight ticks => exact grown names inFlight
  | ticks loop live names inFlight ticks => exact grown names inFlight

/-- Names are given once: an operation that was named before an event and is in
flight after it was in flight all along. -/
theorem flow_inFlight (hub next : Hub) (flow : Flow hub next) (id : OperationId)
    (named : id < hub.nextOperation) (current : id ∈ next.inFlight) :
    id ∈ hub.inFlight :=
  ((flow_names hub next flow).2 id current).resolve_right
    (Nat.not_le.mpr named)

theorem names_run (hub final : Hub) (timeline : Timeline)
    (reached : hub.run timeline = some final) :
    hub.nextOperation ≤ final.nextOperation ∧
      ∀ id ∈ final.inFlight, id ∈ hub.inFlight ∨ hub.nextOperation ≤ id := by
  refine run_induction
    (motive := fun next => hub.nextOperation ≤ next.nextOperation ∧
      ∀ id ∈ next.inFlight, id ∈ hub.inFlight ∨ hub.nextOperation ≤ id)
    ?_ ⟨Nat.le_refl _, fun id member => Or.inl member⟩ reached
  intro before now event step ⟨older, known⟩ reacted
  obtain ⟨later, names⟩ := before.flow_names step.hub
    (before.react_flow now event step reacted)
  refine ⟨Nat.le_trans older later, ?_⟩
  intro id member
  rcases names id member with present | fresh
  · exact known id present
  · exact Or.inr (Nat.le_trans older fresh)

/-! ## The ticks that loops begin -/

/-- The ticks that one event adds to `ticksBegun`. -/
def newTicks (hub next : Hub) : List OperationId :=
  next.scheduledTicks.filter fun id => !hub.scheduledTicks.contains id

theorem ticksBegun_eq (hub : Hub) (timeline : Timeline) :
    hub.ticksBegun timeline =
      hub.observe (fun before _ step => before.newTicks step.hub) timeline := rfl

/-- A tick begins only where a loop is live, and its name is new. -/
theorem mem_newTicks (hub next : Hub) (flow : Flow hub next) (id : OperationId)
    (begun : id ∈ hub.newTicks next) :
    (∃ loop, hub.isLive loop = true) ∧ id = hub.nextOperation ∧
      id < next.nextOperation ∧ id ∈ next.scheduledTicks := by
  simp only [newTicks, List.mem_filter, List.contains_iff_mem,
    Bool.not_eq_true', ← Bool.not_eq_true] at begun
  obtain ⟨after, notBefore⟩ := begun
  cases flow with
  | ebbs gone names inFlight ticks =>
      exact absurd ((ticks id).mp after).1 notBefore
  | grows names inFlight ticks =>
      rw [ticks] at after
      exact absurd after notBefore
  | ticks loop live names inFlight ticks =>
      rcases (ticks id).mp after with before | fresh
      · exact absurd before notBefore
      · refine ⟨⟨loop, live⟩, fresh, ?_, after⟩
        rw [fresh, names]
        exact Nat.lt_succ_self _

/-- The ticks begun so far: their names are taken, and loops are inside of those
that are in flight and of no others. -/
structure Begun (hub : Hub) (past : List OperationId) : Prop where
  named : ∀ id ∈ past, id < hub.nextOperation
  inside : ∀ id ∈ past, id ∈ hub.inFlight → id ∈ hub.scheduledTicks
  known : ∀ id ∈ hub.scheduledTicks, id ∈ past

theorem begun_flow (hub next : Hub) (past : List OperationId)
    (begun : hub.Begun past) (flow : Flow hub next) :
    next.Begun (past ++ hub.newTicks next) := by
  constructor
  · intro id member
    rcases List.mem_append.mp member with old | new
    · exact Nat.lt_of_lt_of_le (begun.named id old) (flow_names hub next flow).1
    · exact (mem_newTicks hub next flow id new).2.2.1
  · intro id member current
    rcases List.mem_append.mp member with old | new
    · have before := flow_inFlight hub next flow id (begun.named id old) current
      have ticked := begun.inside id old before
      cases flow with
      | ebbs gone _ inFlight ticks =>
          exact (ticks id).mpr ⟨ticked, ((inFlight id).mp current).2⟩
      | grows _ inFlight ticks => rw [ticks]; exact ticked
      | ticks loop live _ inFlight ticks => exact (ticks id).mpr (Or.inl ticked)
    · exact (mem_newTicks hub next flow id new).2.2.2
  · intro id member
    rw [List.mem_append]
    by_cases old : id ∈ hub.scheduledTicks
    · exact Or.inl (begun.known id old)
    · exact Or.inr (List.mem_filter.mpr ⟨member, by simpa using old⟩)

theorem begun_create (config : HubConfig) : (create config).Begun [] where
  named := by intro id member; cases member
  inside := by intro id member; cases member
  known := by intro id member; cases member

theorem begun_run (hub final : Hub) (timeline : Timeline)
    (past : List OperationId) (begun : hub.Begun past)
    (reached : hub.run timeline = some final) :
    final.Begun (past ++ hub.ticksBegun timeline) := by
  rw [ticksBegun_eq]
  exact observe_induction
    (fun before now event step past begun reacted =>
      begun_flow before step.hub past begun
        (before.react_flow now event step reacted))
    begun reached

/-- The ticks that loops are inside of are those that loops began and that are
in flight. -/
theorem scheduledTicks_begun (hub : Hub) (past : List OperationId)
    (consistent : hub.Consistent) (begun : hub.Begun past) (id : OperationId) :
    id ∈ hub.scheduledTicks ↔ id ∈ past ∧ id ∈ hub.inFlight :=
  ⟨fun member => ⟨begun.known id member, consistent.ticking id member⟩,
    fun current => begun.inside id current.1 current.2⟩

end AlarmRelay.Hub
