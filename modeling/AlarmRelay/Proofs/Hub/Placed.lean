import AlarmRelay.Proofs.Hub.Line
import AlarmRelay.Proofs.Hub.Phase
import AlarmRelay.Proofs.Hub.Ticks

/-!
# Places in the line

Whoever asks for a side of the lock has a place in the line, and a queue has a holder
before it.  A loop that is joined has been asked to shut down, and no loop joins
another, because only a stop begins to wait for the exit of a loop.
-/

set_option autoImplicit false

namespace AlarmRelay.Hub

/-! ## Operations that begin -/

/-- What begins in an event. -/
inductive Begins (hub : Hub) : HubEvent → Operation → Prop where
  | asks (request : Request) : Begins hub (.ask request) request.operation
  | stops (loop : LoopId) (owned : hub.task = some loop) :
      Begins hub .stop (.awaitExit loop)
  | ticks (loop : LoopId) : Begins hub (.advanceLoop loop) (.tick .checking)

/-- Only a stop begins to wait for the exit of a loop. -/
theorem begins_awaitExit (hub : Hub) (event : HubEvent) (loop : LoopId)
    (begins : hub.Begins event (.awaitExit loop)) :
    event = .stop ∧ hub.task = some loop := by
  generalize same : Operation.awaitExit loop = operation at begins
  cases begins with
  | asks request => cases request <;> cases same
  | stops _ owned => cases same; exact ⟨rfl, owned⟩
  | ticks _ => cases same

theorem begins_borrow (hub : Hub) (event : HubEvent)
    (begins : hub.Begins event .borrow) : event = .ask .borrow := by
  generalize same : Operation.borrow = operation at begins
  cases begins with
  | asks request => cases request <;> first | rfl | cases same
  | stops _ _ => cases same
  | ticks _ => cases same

section

variable (hub : Hub) (event : HubEvent) (step : Progress)

theorem turn_begins (operation : Operation) (consistent : hub.Consistent)
    (turn : Turn hub step event)
    (found : step.hub.operation? hub.nextOperation = some operation) :
    hub.Begins event operation := by
  have unborn := hub.absent_of_unborn hub.nextOperation consistent
    (Nat.le_refl _)
  have fresh : ∀ other, step.hub.operations = (hub.begin other).1.operations →
      operation = other := by
    intro other operations
    rw [hub.operation?_begun step.hub hub.nextOperation other operations, unborn,
      if_pos rfl] at found
    exact (Option.some.inj found).symm
  -- Whatever else happens, nothing gets the next name.
  have nothing : step.hub.operation? hub.nextOperation = none ∨
      step.hub.inFlight = hub.inFlight → hub.Begins event operation := by
    rintro (absent | same)
    · rw [found] at absent
      cases absent
    · have present : hub.nextOperation ∈ hub.inFlight :=
        same ▸ (step.hub.mem_inFlight _).mpr ⟨operation, found⟩
      exact absurd present ((hub.absent_iff _).mp unborn)
  cases turn with
  | rests _ same idle unheard =>
      exact nothing (Or.inr (alike_inFlight _ _ same))
  | asks request same silent =>
      rw [fresh _ same.operations]
      exact .asks request
  | stops loop owned same silent =>
      rw [fresh _ same.operations]
      exact .stops loop owned
  | ticks loop first last live registry operations nextOperation before after
      idle silent =>
      rw [fresh _ operations]
      exact .ticks loop
  | answers _ id answering registry reply drives present answer same replied =>
      refine nothing (Or.inl ?_)
      rw [hub.operation?_left step.hub registry id _ same, unborn, ite_self]
  | fails id outcome message present same replied =>
      refine nothing (Or.inl ?_)
      rw [hub.operation?_lost step.hub [id] _ same, unborn, ite_self]
  | scans _ id drives present held somebody same silent =>
      refine nothing (Or.inr ?_)
      rw [alike_inFlight _ _ same, inFlight_putOperation]
      rfl
  | fetches id alarms present same silent =>
      refine nothing (Or.inr ?_)
      rw [alike_inFlight _ _ same, inFlight_putOperation]
      rfl
  | walks _ id walking next delivery drives present held before after same
      silent =>
      refine nothing (Or.inr ?_)
      rw [alike_inFlight _ _ same, inFlight_putOperation]
  | hears id walking next delivery listener rest report outcome present before
      after same silent =>
      refine nothing (Or.inr ?_)
      rw [alike_inFlight _ _ same, inFlight_putOperation]
  | drops id caller same silent =>
      refine nothing (Or.inl ?_)
      rw [hub.operation?_lost step.hub [id] _ same, unborn, ite_self]
  | loses ids ticking same silent =>
      refine nothing (Or.inl ?_)
      rw [hub.operation?_lost step.hub ids _ same, unborn, ite_self]

/-- An operation that neither carries a fan-out nor reads the source is as it was
before an event, unless the event began it. -/
theorem plain_react (now : Instant) (id : OperationId) (operation : Operation)
    (consistent : hub.Consistent) (reacted : hub.react now event = some step)
    (found : step.hub.operation? id = some operation)
    (plain : operation.fanOut? = none) (still : operation ≠ .tick .scanning) :
    hub.operation? id = some operation ∨
      id = hub.nextOperation ∧ hub.Begins event operation := by
  cases hub.react_fate now event step id consistent reacted with
  | stays same began ended => exact Or.inl (same ▸ found)
  | begins fresh named calm before after began ended =>
      subst named
      exact Or.inr ⟨rfl, hub.turn_begins event step operation consistent
        (hub.react_turn now event step reacted) found⟩
  | moves old next heard motion before after began ended outcomes =>
      rw [found] at after
      cases after
      cases motion with
      | scans somebody => exact absurd rfl still
      | fetches alarms => cases plain
      | walks _ _ delivery held waits walks =>
          rw [plain] at walks
          cases walks
      | hears _ _ delivery listener rest report outcome waits walks =>
          rw [plain] at walks
          cases walks
  | answers old registry reply answer before after listeners replied began
      ended =>
      rw [found] at after
      cases after
  | drops old before after silent began ended =>
      rw [found] at after
      cases after

end

/-! ## What every run keeps -/

/-- What keeps chains of waiting from going wrong. -/
structure Placed (hub : Hub) : Prop where
  occupied : hub.registry.lock.Occupied
  /-- Whoever asks for a side of the lock has a place in the line. -/
  asks : ∀ id operation mode, hub.operation? id = some operation →
    operation.lockSide? = some mode →
      (⟨id, mode⟩ : LockRequest) ∈ hub.registry.lock.line
  /-- A loop that is joined has been asked to shut down. -/
  joined : ∀ id loop, hub.operation? id = some (.awaitExit loop) →
    ∃ here, hub.loops[loop]? = some here ∧ here.cancelled = true
  /-- No loop joins another. -/
  ticks : ∀ id ∈ hub.scheduledTicks, ∀ loop,
    hub.operation? id ≠ some (.awaitExit loop)

theorem placed_create (config : HubConfig) : (create config).Placed where
  occupied := by intro queued; exact absurd rfl queued
  asks := by intro id operation mode found; cases found
  joined := by intro id loop found; cases found
  ticks := by intro id member; cases member

section

variable (hub : Hub) (event : HubEvent) (step : Progress)

theorem begin_occupied (operation : Operation)
    (occupied : hub.registry.lock.Occupied) :
    (hub.begin operation).1.registry.lock.Occupied := by
  simp only [begin]
  cases operation.firstLock with
  | none => exact occupied
  | some mode => exact FairLock.occupied_request _ _ mode

theorem occupied_turn (occupied : hub.registry.lock.Occupied)
    (turn : Turn hub step event) : step.hub.registry.lock.Occupied := by
  cases turn with
  | rests _ same idle unheard => rw [same.registry]; exact occupied
  | asks request same silent =>
      rw [same.registry]
      exact hub.begin_occupied _ occupied
  | stops loop owned same silent =>
      rw [same.registry]
      exact hub.begin_occupied _ occupied
  | ticks loop first last live registry operations nextOperation before after
      idle silent =>
      rw [registry]
      exact hub.begin_occupied _ occupied
  | answers _ id operation registry reply drives found answer same replied =>
      rw [same.registry]
      exact FairLock.occupied_leave _ id
  | fails id outcome message found same replied =>
      rw [same.registry]
      exact FairLock.occupied_leave _ id
  | scans _ id drives found held somebody same silent =>
      rw [same.registry]
      exact FairLock.occupied_leave _ id
  | fetches id alarms found same silent =>
      rw [same.registry]
      exact FairLock.occupied_request _ id .shared
  | walks _ id operation next delivery drives found held before after same
      silent => rw [same.registry]; exact occupied
  | hears id operation next delivery listener rest report outcome found before
      after same silent => rw [same.registry]; exact occupied
  | drops id caller same silent =>
      rw [same.registry]
      exact FairLock.occupied_leave _ id
  | loses ids ticking same silent =>
      rw [same.registry]
      clear same ticking
      induction ids generalizing hub with
      | nil => exact occupied
      | cons id rest ih => exact ih _ (FairLock.occupied_leave _ id)

theorem asks_traffic (gone : List OperationId)
    (traffic : Traffic hub event step gone) (consistent : step.hub.Consistent)
    (asks : ∀ id operation mode, hub.operation? id = some operation →
      operation.lockSide? = some mode →
        (⟨id, mode⟩ : LockRequest) ∈ hub.registry.lock.line)
    (id : OperationId) (later : Operation) (mode : LockMode)
    (found : step.hub.operation? id = some later)
    (side : later.lockSide? = some mode) :
    (⟨id, mode⟩ : LockRequest) ∈ step.hub.registry.lock.line := by
  rw [traffic.line, List.mem_append]
  cases before : (hub.operation? id).bind Operation.lockSide? with
  | none =>
      -- It had no place and has just asked for one.
      refine Or.inr (List.mem_filterMap.mpr ⟨(id, later), ?_, ?_⟩)
      · exact (hub.mem_newBids step.hub _).mpr
          ⟨consistent.named id ((step.hub.mem_inFlight id).mpr ⟨later, found⟩),
            found, by rw [side]; rfl, before⟩
      · simp [Bid.request?, side]
  | some asked =>
      obtain ⟨operation, present, wanted⟩ := Option.bind_eq_some_iff.mp before
      have stays : id ∉ gone := by
        intro left
        rcases traffic.left id left with absent | ⟨_, scans⟩
        · rw [found] at absent
          cases absent
        · rw [found] at scans
          cases scans
          cases side
      obtain ⟨next, here, becomes⟩ :=
        traffic.kept id stays operation present (by rw [wanted]; rfl)
      rw [found] at here
      cases here
      rw [operation.becomes_lockSide later becomes] at side
      exact Or.inl (List.mem_filter.mpr
        ⟨asks id operation mode present side, by simpa using stays⟩)

/-- A stop asks the loop that it joins to shut down. -/
theorem stop_cancels (now : Instant) (loop : LoopId) (ordered : hub.Ordered)
    (owned : hub.task = some loop)
    (reacted : hub.react now .stop = some step) :
    ∃ here, step.hub.loops[loop]? = some here ∧ here.cancelled = true := by
  obtain ⟨_, stage, link⟩ := ordered.linked.owned loop owned
  rw [chain_links] at link
  obtain ⟨before, found, _⟩ := Option.map_eq_some_iff.mp link
  refine ⟨before.cancel, ?_, rfl⟩
  simp only [react, stop, owned] at reacted
  split at reacted
  · cases reacted
  · cases reacted
    simp [begin, disown, owned, updateLoop, found]

theorem joined_react (now : Instant) (ordered : hub.Ordered)
    (consistent : hub.Consistent) (placed : hub.Placed)
    (reacted : hub.react now event = some step) (id : OperationId)
    (loop : LoopId) (found : step.hub.operation? id = some (.awaitExit loop)) :
    ∃ here, step.hub.loops[loop]? = some here ∧ here.cancelled = true := by
  rcases hub.plain_react event step now id _ consistent reacted found rfl
    (by intro same; cases same) with before | ⟨rfl, begins⟩
  · obtain ⟨here, present, asked⟩ := placed.joined id loop before
    obtain ⟨later, after, _, still⟩ :=
      hub.react_evolves now event step reacted loop here present
    exact ⟨later, after, still asked⟩
  · obtain ⟨rfl, owned⟩ := hub.begins_awaitExit event loop begins
    exact hub.stop_cancels step now loop ordered owned reacted

theorem ticks_stop (turn : Turn hub step .stop) :
    step.hub.scheduledTicks = hub.scheduledTicks := by
  cases turn with
  | rests _ same idle unheard => exact same.ticks
  | stops loop owned same silent => exact same.ticks
  | answers _ id operation registry reply drives found answer same replied =>
      cases drives
  | scans _ id drives found held somebody same silent => cases drives
  | walks _ id operation next delivery drives found held before after same
      silent => cases drives

theorem ticks_react (now : Instant) (consistent : hub.Consistent)
    (placed : hub.Placed) (reacted : hub.react now event = some step)
    (id : OperationId) (inside : id ∈ step.hub.scheduledTicks) (loop : LoopId) :
    step.hub.operation? id ≠ some (.awaitExit loop) := by
  intro found
  have unborn : hub.nextOperation ∉ hub.inFlight := (hub.absent_iff _).mp
    (hub.absent_of_unborn _ consistent (Nat.le_refl _))
  rcases hub.plain_react event step now id _ consistent reacted found rfl
    (by intro same; cases same) with before | ⟨rfl, begins⟩
  · have older : id ∈ hub.scheduledTicks := by
      have current := (hub.mem_inFlight id).mpr ⟨_, before⟩
      cases hub.react_flow now event step reacted with
      | ebbs gone names inFlight ticks => exact ((ticks id).mp inside).1
      | grows names inFlight ticks => exact ticks ▸ inside
      | ticks other live names inFlight ticks =>
          rcases (ticks id).mp inside with older | fresh
          · exact older
          · exact absurd (fresh ▸ current) unborn
    exact placed.ticks id older loop before
  · obtain ⟨rfl, _⟩ := hub.begins_awaitExit event loop begins
    rw [hub.ticks_stop step (hub.react_turn now _ step reacted)] at inside
    exact unborn (consistent.ticking _ inside)

theorem placed_react (now : Instant) (ordered : hub.Ordered)
    (consistent : hub.Consistent) (placed : hub.Placed)
    (reacted : hub.react now event = some step) : step.hub.Placed := by
  have turn := hub.react_turn now event step reacted
  have next := hub.consistent_turn event step consistent turn
  obtain ⟨gone, traffic⟩ := hub.turn_traffic event step consistent turn
  exact {
    occupied := hub.occupied_turn event step placed.occupied turn
    asks := hub.asks_traffic event step gone traffic next placed.asks
    joined := hub.joined_react event step now ordered consistent placed reacted
    ticks := hub.ticks_react event step now consistent placed reacted }

end

theorem placed_run (config : HubConfig) (valid : config.validate = .ok ())
    (timeline : Timeline) (hub : Hub)
    (reached : (create config).run timeline = some hub) : hub.Placed := by
  have kept : hub.Ordered ∧ hub.Consistent ∧ hub.Placed :=
    run_induction
      (motive := fun hub => hub.Ordered ∧ hub.Consistent ∧ hub.Placed)
      (fun before now event step kept reacted =>
        ⟨(before.ordered_react now event step kept.1 reacted).1,
          before.consistent_turn event step kept.2.1
            (before.react_turn now event step reacted),
          before.placed_react event step now kept.1 kept.2.1 kept.2.2 reacted⟩)
      ⟨ordered_create config valid, consistent_create config,
        placed_create config⟩ reached
  exact kept.2.2

/-- Nobody holds the shared side of the lock for its own sake. -/
theorem unborrowed_run (hub final : Hub) (timeline : Timeline)
    (consistent : hub.Consistent)
    (unborrowed : ∀ id, hub.operation? id ≠ some .borrow)
    (kept : ∀ entry ∈ timeline, entry.2 ≠ .ask .borrow)
    (reached : hub.run timeline = some final) (id : OperationId) :
    final.operation? id ≠ some .borrow := by
  induction timeline generalizing hub with
  | nil =>
      simp only [run, Option.some.injEq] at reached
      subst final
      exact unborrowed id
  | cons entry rest ih =>
      obtain ⟨now, event⟩ := entry
      obtain ⟨step, reacted, restRun⟩ := (run_cons _ _ _ _ _).mp reached
      refine ih step.hub
        (hub.consistent_turn event step consistent
          (hub.react_turn now event step reacted)) ?_
        (fun other member => kept other (List.mem_cons_of_mem _ member)) restRun
      intro other found
      rcases hub.plain_react event step now other _ consistent reacted found rfl
        (by intro same; cases same) with before | ⟨rfl, begins⟩
      · exact unborrowed other before
      · exact kept _ List.mem_cons_self (hub.begins_borrow event begins)

end AlarmRelay.Hub
