import AlarmRelay.Proofs.Hub.Step

/-!
# Hubs alike to their operations

Operations see the registry, one another and the ticks that loops are inside of,
and nothing else of a hub.  Ending, cancelling and reclaiming loops that are
between ticks is invisible to them, so a hub may be exchanged for one that is
`Alike` in every statement about operations.
-/

set_option autoImplicit false

namespace AlarmRelay.Hub

/-- Two hubs that differ in nothing that an operation can see. -/
structure Alike (left right : Hub) : Prop where
  registry : left.registry = right.registry
  operations : left.operations = right.operations
  nextOperation : left.nextOperation = right.nextOperation
  ticks : left.scheduledTicks = right.scheduledTicks

theorem alike_refl (hub : Hub) : hub.Alike hub := ⟨rfl, rfl, rfl, rfl⟩

theorem alike_trans (first second third : Hub) (left : first.Alike second)
    (right : second.Alike third) : first.Alike third where
  registry := left.registry.trans right.registry
  operations := left.operations.trans right.operations
  nextOperation := left.nextOperation.trans right.nextOperation
  ticks := left.ticks.trans right.ticks

/-! ## Ticks of loops -/

theorem loopTick?_eq (hub : Hub) (id : Nat) :
    hub.loopTick? id = (hub.loops[id]?).bind SnapshotLoop.tick? := by
  unfold loopTick?
  cases hub.loops[id]? with
  | none => rfl
  | some loop =>
      obtain ⟨cancelled, phase⟩ := loop
      cases phase <;> rfl

theorem mem_scheduledTicks (hub : Hub) (operation : OperationId) :
    operation ∈ hub.scheduledTicks ↔
      ∃ id : Nat, hub.loopTick? id = some operation := by
  simp only [scheduledTicks, List.mem_filterMap, loopTick?_eq,
    Option.bind_eq_some_iff]
  constructor
  · rintro ⟨loop, member, tick⟩
    obtain ⟨id, present⟩ := List.mem_iff_getElem?.mp member
    exact ⟨id, loop, present, tick⟩
  · rintro ⟨id, loop, present, tick⟩
    exact ⟨loop, List.mem_iff_getElem?.mpr ⟨id, present⟩, tick⟩

theorem isTicking_iff (loop : SnapshotLoop) (operation : OperationId) :
    loop.isTicking operation = true ↔ loop.tick? = some operation := by
  obtain ⟨cancelled, phase⟩ := loop
  cases phase <;> simp [SnapshotLoop.isTicking, SnapshotLoop.tick?]

theorem mem_callerOperations (hub : Hub) (id : OperationId) :
    id ∈ hub.callerOperations ↔
      id ∈ hub.inFlight ∧ id ∉ hub.scheduledTicks := by
  simp only [callerOperations, inFlight, List.mem_filter, scheduledTicks,
    List.mem_filterMap, Bool.not_eq_true', ← Bool.not_eq_true, List.any_eq_true,
    isTicking_iff]

theorem isInside_of_loopTick (hub : Hub) (id : Nat) (operation : OperationId)
    (ticking : hub.loopTick? id = some operation) : hub.isInside id = true := by
  rw [loopTick?_eq] at ticking
  obtain ⟨loop, found, tick⟩ := Option.bind_eq_some_iff.mp ticking
  obtain ⟨cancelled, phase⟩ := loop
  cases phase <;> simp_all [SnapshotLoop.tick?, isInside, SnapshotLoop.isInside]

theorem tick?_tickEnded (loop : SnapshotLoop) (id : OperationId) :
    (loop.tickEnded id).tick? =
      loop.tick?.filter (fun tick => tick != id) := by
  obtain ⟨cancelled, phase⟩ := loop
  cases phase with
  | ticking origin ticks current =>
      by_cases same : current = id <;>
        simp [SnapshotLoop.tickEnded, SnapshotLoop.tick?, Option.filter, same]
  | waiting previous => rfl
  | idle origin ticks => rfl
  | finished result => rfl

@[simp] theorem scheduledTicks_forget (hub : Hub) (id : OperationId) :
    (hub.forget id).scheduledTicks =
      hub.scheduledTicks.filter (fun tick => tick != id) := by
  simp only [scheduledTicks, forget]
  generalize hub.loops = loops
  induction loops with
  | nil => rfl
  | cons loop rest ih =>
      simp only [List.map_cons, List.filterMap_cons, tick?_tickEnded, ih]
      cases loop.tick? with
      | none => rfl
      | some tick => by_cases same : tick = id <;> simp [Option.filter, same]

/-- A change of one loop that keeps its tick is invisible to operations. -/
theorem alike_updateLoop (hub : Hub) (id : Nat)
    (change : SnapshotLoop → SnapshotLoop)
    (kept : ∀ loop, hub.loops[id]? = some loop →
      (change loop).tick? = loop.tick?) :
    (hub.updateLoop id change).Alike hub where
  registry := rfl
  operations := rfl
  nextOperation := rfl
  ticks := by
    have same : (hub.loops.modify id change).map SnapshotLoop.tick? =
        hub.loops.map SnapshotLoop.tick? := by
      apply List.ext_getElem?
      intro other
      simp only [List.getElem?_map, List.getElem?_modify]
      split
      · rename_i here
        subst here
        cases found : hub.loops[id]? with
        | none => rfl
        | some loop => simp [kept loop found]
      · simp
    have ticks := congrArg (List.filterMap fun tick => tick) same
    simpa [List.filterMap_map, Function.comp_def, scheduledTicks, updateLoop]
      using ticks

/-! ## Helpers of the hub -/

theorem alike_disown (hub : Hub) : hub.disown.Alike hub := by
  unfold disown
  split
  · exact hub.alike_refl
  · rename_i owned _
    have kept := hub.alike_updateLoop owned SnapshotLoop.cancel
      (fun loop _ => rfl)
    exact ⟨kept.registry, kept.operations, kept.nextOperation, kept.ticks⟩

theorem alike_reclaim (hub : Hub) : hub.reclaim.1.Alike hub := by
  rcases hub.reclaim_hub with same | ⟨released, taken⟩
  · rw [same]
    exact hub.alike_refl
  · rw [taken]
    have kept := hub.alike_disown
    exact ⟨kept.registry, kept.operations, kept.nextOperation, kept.ticks⟩

/-- The end of a loop between ticks is invisible to operations. -/
theorem alike_finishLoop (hub : Hub) (id : Nat) (result : LoopEnd)
    (calm : hub.loopTick? id = none) :
    (hub.finishLoop id result).1.Alike hub := by
  apply alike_trans _ _ _ (alike_reclaim _)
  apply alike_updateLoop
  intro loop found
  simp only [loopTick?_eq, found, Option.bind_some] at calm
  rw [calm]
  rfl

theorem alike_forget (left right : Hub) (id : OperationId)
    (alike : left.Alike right) : (left.forget id).Alike (right.forget id) where
  registry := by simp [alike.registry]
  operations := by simp [alike.operations]
  nextOperation := alike.nextOperation
  ticks := by simp [alike.ticks]

theorem alike_begin (left right : Hub) (operation : Operation)
    (alike : left.Alike right) :
    (left.begin operation).1.Alike (right.begin operation).1 where
  registry := by simp only [begin, alike.registry, alike.nextOperation]
  operations := by simp only [begin, alike.operations, alike.nextOperation]
  nextOperation := congrArg (· + 1) alike.nextOperation
  ticks := alike.ticks

theorem loopTick?_updateLoop (hub : Hub) (id other : Nat)
    (change : SnapshotLoop → SnapshotLoop)
    (kept : ∀ loop : SnapshotLoop, (change loop).tick? = loop.tick?) :
    (hub.updateLoop id change).loopTick? other = hub.loopTick? other := by
  simp only [loopTick?_eq, updateLoop, List.getElem?_modify]
  split
  · cases hub.loops[other]? with
    | none => rfl
    | some loop => exact kept loop
  · simp

theorem loopTick?_reclaim (hub : Hub) (id : Nat) :
    hub.reclaim.1.loopTick? id = hub.loopTick? id := by
  have disowned : hub.disown.loopTick? id = hub.loopTick? id := by
    unfold disown
    split
    · rfl
    · rename_i owned _
      exact hub.loopTick?_updateLoop owned id SnapshotLoop.cancel
        (fun loop => rfl)
  rcases hub.reclaim_hub with same | ⟨released, taken⟩
  · rw [same]
  · rw [taken, ← disowned]
    rfl

theorem loopTick?_forget (hub : Hub) (id : OperationId) (loop : Nat) :
    (hub.forget id).loopTick? loop =
      (hub.loopTick? loop).filter (fun tick => tick != id) := by
  simp only [loopTick?_eq, forget, List.getElem?_map]
  cases hub.loops[loop]? with
  | none => rfl
  | some found => exact tick?_tickEnded found id

/-- A loop killed inside a tick takes the tick with it and nothing else. -/
theorem alike_killLoop (hub : Hub) (id : Nat) :
    (hub.killLoop id).1.Alike hub ∨
      ∃ operation, hub.loopTick? id = some operation ∧
        (hub.killLoop id).1.Alike (hub.forget operation) := by
  have shape := hub.killLoop_cases id
  generalize (hub.killLoop id).1 = next at shape ⊢
  cases shape with
  | isOver ended => exact Or.inl hub.alike_refl
  | between running calm =>
      exact Or.inl (hub.alike_finishLoop id .killed calm)
  | inside running operation ticking =>
      have calm : (hub.forget operation).reclaim.1.loopTick? id = none := by
        rw [loopTick?_reclaim, loopTick?_forget, ticking]
        simp [Option.filter]
      exact Or.inr ⟨operation, ticking, alike_trans _ _ _
        (alike_finishLoop _ id .killed calm) (alike_reclaim _)⟩

/-! ## Operations in flight -/

theorem alike_inFlight (left right : Hub) (alike : left.Alike right) :
    left.inFlight = right.inFlight := by
  simp [inFlight, alike.operations]

theorem alike_operation? (left right : Hub) (alike : left.Alike right)
    (id : OperationId) : left.operation? id = right.operation? id := by
  simp [operation?, alike.operations]

@[simp] theorem inFlight_forget (hub : Hub) (id : OperationId) :
    (hub.forget id).inFlight =
      hub.inFlight.filter (fun other => other != id) := by
  simp [inFlight, List.filter_map, Function.comp_def]

@[simp] theorem inFlight_putOperation (hub : Hub) (id : OperationId)
    (operation : Operation) :
    (hub.putOperation id operation).inFlight = hub.inFlight := by
  simp only [inFlight, putOperation, List.map_map]
  apply List.map_congr_left
  intro entry _
  simp only [Function.comp_apply]
  split
  · rename_i same
    exact same.symm
  · rfl

@[simp] theorem inFlight_begin (hub : Hub) (operation : Operation) :
    (hub.begin operation).1.inFlight = hub.inFlight ++ [hub.nextOperation] := by
  simp [inFlight, begin]

theorem mem_inFlight (hub : Hub) (id : OperationId) :
    id ∈ hub.inFlight ↔ ∃ operation, hub.operation? id = some operation := by
  rw [← Option.isSome_iff_exists, operation?, List.lookup_isSome_iff]
  simp only [inFlight, List.mem_map]
  constructor
  · rintro ⟨entry, member, named⟩
    exact ⟨entry, member, by simp [named]⟩
  · rintro ⟨entry, member, named⟩
    exact ⟨entry, member, (beq_iff_eq.mp named).symm⟩

theorem absent_iff (hub : Hub) (id : OperationId) :
    hub.operation? id = none ↔ id ∉ hub.inFlight := by
  rw [mem_inFlight, ← Option.isSome_iff_exists, Option.not_isSome_iff_eq_none]

theorem lookup_cons_ite (name other : OperationId) (operation : Operation)
    (rest : List (OperationId × Operation)) :
    ((name, operation) :: rest).lookup other =
      if other = name then some operation else rest.lookup other := by
  rw [List.lookup_cons]
  split <;> simp_all

theorem operation?_forget (hub : Hub) (id other : OperationId) :
    (hub.forget id).operation? other =
      if other = id then none else hub.operation? other := by
  simp only [operation?, forget_operations]
  induction hub.operations with
  | nil => simp
  | cons entry rest ih =>
      obtain ⟨name, operation⟩ := entry
      by_cases here : name = id
      · subst here
        by_cases same : other = name <;>
          simpa [lookup_cons_ite, same] using ih
      · have kept : (name != id) = true := by simpa using here
        simp only [List.filter_cons, kept, if_true, lookup_cons_ite, ih]
        split
        · rename_i same
          rw [same, if_neg here]
        · rfl

theorem operation?_putOperation (hub : Hub) (id other : OperationId)
    (operation : Operation) :
    (hub.putOperation id operation).operation? other =
      if other = id then (hub.operation? id).map fun _ => operation
      else hub.operation? other := by
  simp only [operation?, putOperation]
  induction hub.operations with
  | nil => simp
  | cons entry rest ih =>
      obtain ⟨name, before⟩ := entry
      by_cases here : name = id
      · subst here
        by_cases same : other = name
        · simp [same]
        · simpa [lookup_cons_ite, same] using ih
      · simp only [List.map_cons, if_neg here, lookup_cons_ite, ih]
        by_cases same : other = id
        · have apart : ¬ id = name := fun this => here this.symm
          simp [same, apart]
        · simp [same]

theorem operation?_begin (hub : Hub) (operation : Operation)
    (other : OperationId) :
    (hub.begin operation).1.operation? other =
      (hub.operation? other).or
        (if other = hub.nextOperation then some operation else none) := by
  simp [operation?, begin, List.lookup_append, lookup_cons_ite]

section

variable (hub after : Hub) (registry : Registry) (id other : OperationId)

theorem operation?_begun (operation : Operation)
    (operations : after.operations = (hub.begin operation).1.operations) :
    after.operation? other =
      (hub.operation? other).or
        (if other = hub.nextOperation then some operation else none) := by
  rw [← operation?_begin]
  exact congrArg (List.lookup other) operations

theorem operation?_left
    (same : after.Alike ({ hub with registry := registry }.forget id)) :
    after.operation? other =
      if other = id then none else hub.operation? other := by
  rw [alike_operation? _ _ same, operation?_forget]
  rfl

theorem operation?_moved (operation next : Operation)
    (found : hub.operation? id = some operation)
    (same : after.Alike ({ hub with registry := registry }.putOperation id next)) :
    after.operation? other =
      if other = id then some next else hub.operation? other := by
  have kept : { hub with registry := registry }.operation? id = some operation :=
    found
  rw [alike_operation? _ _ same, operation?_putOperation, kept]
  rfl

end

/-! ## Several operations forgotten -/

theorem nextOperation_forgotten (hub : Hub) (ids : List OperationId) :
    (ids.foldl forget hub).nextOperation = hub.nextOperation := by
  induction ids generalizing hub with
  | nil => rfl
  | cons id rest ih => exact ih (hub.forget id)

theorem listeners_forgotten (hub : Hub) (ids : List OperationId) :
    (ids.foldl forget hub).registry.listeners = hub.registry.listeners := by
  induction ids generalizing hub with
  | nil => rfl
  | cons id rest ih => exact ih (hub.forget id)

theorem scheduledTicks_forgotten (hub : Hub) (ids : List OperationId)
    (tick : OperationId) :
    tick ∈ (ids.foldl forget hub).scheduledTicks ↔
      tick ∈ hub.scheduledTicks ∧ tick ∉ ids := by
  induction ids generalizing hub with
  | nil => simp
  | cons id rest ih =>
      simp only [List.foldl_cons, ih, scheduledTicks_forget, List.mem_filter,
        bne_iff_ne, List.mem_cons, not_or, and_assoc]

theorem inFlight_forgotten (hub : Hub) (ids : List OperationId)
    (other : OperationId) :
    other ∈ (ids.foldl forget hub).inFlight ↔
      other ∈ hub.inFlight ∧ other ∉ ids := by
  induction ids generalizing hub with
  | nil => simp
  | cons id rest ih =>
      simp only [List.foldl_cons, ih, inFlight_forget, List.mem_filter,
        bne_iff_ne, List.mem_cons, not_or, and_assoc]

theorem operation?_forgotten (hub : Hub) (ids : List OperationId)
    (other : OperationId) (kept : other ∉ ids) :
    (ids.foldl forget hub).operation? other = hub.operation? other := by
  induction ids generalizing hub with
  | nil => rfl
  | cons id rest ih =>
      simp only [List.mem_cons, not_or] at kept
      rw [List.foldl_cons, ih _ kept.2, operation?_forget, if_neg kept.1]

theorem operation?_lost (hub after : Hub) (ids : List OperationId)
    (other : OperationId) (same : after.Alike (ids.foldl forget hub)) :
    after.operation? other =
      if other ∈ ids then none else hub.operation? other := by
  rw [alike_operation? _ _ same]
  split
  · rename_i lost
    rw [absent_iff, inFlight_forgotten]
    exact fun member => member.2 lost
  · rename_i kept
    exact operation?_forgotten hub ids other kept

end AlarmRelay.Hub
