import AlarmRelay.Hub.Coverage
import AlarmRelay.Proofs.Hub.Cancellation
import AlarmRelay.Proofs.Hub.Phase

/-!
# Ticks from their beginning

Where a loop begins a tick, the name of the tick is new, and the loop is inside of
it until the tick answers or the runtime is lost.  A loop that is not over at the
end of a run has seen no loss of the runtime.
-/

set_option autoImplicit false

namespace AlarmRelay.Hub

/-! ## The event in which a tick begins -/

theorem moment_began (before after : Option SnapshotLoop)
    (lived : SnapshotLoop.moment? before after = some .began) :
    ∃ here later, before = some here ∧ after = some later ∧
      (∃ origin ticks, here.phase = .idle origin ticks) ∧
      ∃ origin ticks operation, later.phase = .ticking origin ticks operation := by
  cases before with
  | none => cases after <;> cases lived
  | some here =>
      obtain ⟨asked, phase⟩ := here
      cases after with
      | none => cases phase <;> cases lived
      | some later =>
          obtain ⟨askedLater, phaseLater⟩ := later
          cases phase <;> cases phaseLater <;> cases lived
          exact ⟨_, _, rfl, rfl, ⟨_, _, rfl⟩, _, _, _, rfl⟩

section

variable (hub : Hub) (now : Instant) (event : HubEvent) (step : Progress)
  (loop : Nat) (reacted : hub.react now event = some step)

include reacted

/-- A tick that a loop begins gets the next name. -/
theorem began_tick (lived : SnapshotLoop.moment? hub.loops[loop]?
      step.hub.loops[loop]? = some .began) :
    step.hub.loopTick? loop = some hub.nextOperation := by
  obtain ⟨here, later, found, present, ⟨origin, ticks, idle⟩, inside⟩ :=
    moment_began _ _ lived
  obtain ⟨_, known, phases, _⟩ :=
    hub.react_evolves now event step reacted loop here found
  rw [present] at known
  cases known
  obtain ⟨_, _, operation, ticking⟩ := inside
  rw [loopTick?_eq, present, Option.bind_some, SnapshotLoop.tick?]
  generalize later.phase = phase at phases ticking ⊢
  cases phases with
  | stays => rw [idle] at ticking; cases ticking
  | enters previous waits free => cases ticking
  | begins _ _ _ live due => rfl
  | ends _ _ _ other => cases ticking
  | finishes result running => cases ticking

/-- A tick that a loop is inside of after an event is one that it was inside of
before, unless its name is new. -/
theorem loopTick?_react (ordered : hub.Ordered) (tick : OperationId)
    (after : step.hub.loopTick? loop = some tick) :
    hub.loopTick? loop = some tick ∨ tick = hub.nextOperation := by
  rw [loopTick?_eq] at after
  obtain ⟨later, present, inside⟩ := Option.bind_eq_some_iff.mp after
  cases found : hub.loops[loop]? with
  | none =>
      obtain ⟨_, _, rfl⟩ :=
        hub.react_spawned now event step loop later ordered reacted found present
      cases inside
  | some here =>
      obtain ⟨_, known, phases, _⟩ :=
        hub.react_evolves now event step reacted loop here found
      rw [present] at known
      cases known
      rw [loopTick?_eq, found, Option.bind_some]
      simp only [SnapshotLoop.tick?] at inside ⊢
      generalize later.phase = phase at phases inside
      cases phases with
      | stays => exact Or.inl inside
      | enters previous waits free => cases inside
      | begins _ _ _ live due => cases inside; exact Or.inr rfl
      | ends _ _ _ other => cases inside
      | finishes result running => cases inside

/-- Nothing but a loop that begins a tick adds to the ticks that loops are inside
of. -/
theorem begun_operations (consistent : hub.Consistent)
    (begun : hub.nextOperation ∈ step.hub.scheduledTicks) :
    step.hub.operations = (hub.begin (.tick .checking)).1.operations := by
  have fresh : hub.nextOperation ∉ hub.scheduledTicks := by
    intro known
    exact absurd (consistent.named _ (consistent.ticking _ known))
      (Nat.lt_irrefl _)
  have still : ∀ other : Hub, step.hub.Alike other →
      (∀ id ∈ other.scheduledTicks, id ∈ hub.scheduledTicks) →
      step.hub.operations = (hub.begin (.tick .checking)).1.operations := by
    intro other same kept
    rw [same.ticks] at begun
    exact absurd (kept _ begun) fresh
  have forgets : ∀ (registry : Registry) (id : OperationId),
      ∀ other ∈ ({ hub with registry := registry }.forget id).scheduledTicks,
        other ∈ hub.scheduledTicks := by
    intro registry id other member
    rw [scheduledTicks_forget] at member
    exact (List.mem_filter.mp member).1
  cases hub.react_turn now event step reacted with
  | ticks _ first last live registry operations => exact operations
  | rests _ same => exact still _ same fun _ member => member
  | asks request same => exact still _ same fun _ member => member
  | stops _ owned same => exact still _ same fun _ member => member
  | answers _ id operation registry reply drives found answer same =>
      exact still _ same (forgets registry id)
  | fails id outcome message found same =>
      exact still _ same (forgets hub.registry id)
  | scans _ id drives found held somebody same =>
      exact still _ same fun _ member => member
  | fetches id alarms found same => exact still _ same fun _ member => member
  | walks _ id operation next delivery drives found held before after same =>
      exact still _ same fun _ member => member
  | hears id operation next delivery listener rest report outcome found before
      after same =>
      exact still _ same fun _ member => member
  | drops id caller same => exact still _ same (forgets hub.registry id)
  | loses ids ticking same =>
      exact still _ same fun other member =>
        ((hub.scheduledTicks_forgotten ids other).mp member).1

/-- A tick that a loop begins is in the journal. -/
theorem began_requested (consistent : hub.Consistent)
    (lived : SnapshotLoop.moment? hub.loops[loop]? step.hub.loops[loop]? =
      some .began) :
    .requested hub.nextOperation (.tick .checking) ∈ hub.marks event step := by
  have inside := hub.began_tick now event step loop reacted lived
  have operations := hub.begun_operations now event step reacted consistent
    ((step.hub.mem_scheduledTicks _).mpr ⟨loop, inside⟩)
  apply (hub.mem_marks event step _).mpr
  refine Or.inr (Or.inr (Or.inl ?_))
  refine ⟨hub.nextOperation, .tick .checking, ?_, Nat.le_refl _, rfl⟩
  rw [operations]
  simp [begin]

end

/-! ## The ticks of a loop along a run -/

theorem life_append (hub middle : Hub) (loop : Nat) (first second : Timeline)
    (reached : hub.run first = some middle) :
    hub.life loop (first ++ second) =
      hub.life loop first ++ middle.life loop second := by
  induction first generalizing hub with
  | nil =>
      simp only [run, Option.some.injEq] at reached
      subst middle
      rfl
  | cons entry rest ih =>
      obtain ⟨now, event⟩ := entry
      obtain ⟨step, reacted, restRun⟩ := (run_cons _ _ _ _ _).mp reached
      simp only [List.cons_append, life, reacted, List.append_assoc]
      rw [ih step.hub restRun]

theorem beginnings_append (hub middle : Hub) (loop : Nat)
    (first second : Timeline) (reached : hub.run first = some middle) :
    hub.beginnings loop (first ++ second) =
      hub.beginnings loop first ++ middle.beginnings loop second := by
  induction first generalizing hub with
  | nil =>
      simp only [run, Option.some.injEq] at reached
      subst middle
      rfl
  | cons entry rest ih =>
      obtain ⟨now, event⟩ := entry
      obtain ⟨step, reacted, restRun⟩ := (run_cons _ _ _ _ _).mp reached
      simp only [List.cons_append, beginnings, reacted, List.append_assoc]
      rw [ih step.hub restRun]

theorem beginnings_began (hub : Hub) (now : Instant) (event : HubEvent)
    (step : Progress) (loop : Nat) (rest : Timeline)
    (reacted : hub.react now event = some step)
    (lived : SnapshotLoop.moment? hub.loops[loop]? step.hub.loops[loop]? =
      some .began) :
    hub.beginnings loop ((now, event) :: rest) =
      (now, hub.nextOperation) :: step.hub.beginnings loop rest := by
  simp only [beginnings, reacted, if_pos lived,
    hub.began_tick now event step loop reacted lived]
  rfl

/-- The instants of these ticks are those at which the loop began one. -/
theorem beginnings_instants (hub : Hub) (loop : Nat) (timeline : Timeline) :
    (hub.beginnings loop timeline).map Prod.fst =
      (hub.life loop timeline).instants .began := by
  induction timeline generalizing hub with
  | nil => rfl
  | cons entry rest ih =>
      obtain ⟨now, event⟩ := entry
      cases reacted : hub.react now event with
      | none => simp [beginnings, life, reacted, Life.instants]
      | some step =>
          simp only [life, reacted, Life.instants_append, instants_moments]
          rw [← ih step.hub]
          split
          · rename_i lived
            rw [hub.beginnings_began now event step loop rest reacted lived]
            rfl
          · rename_i other
            simp [beginnings, reacted, if_neg other]

/-- The event in which a loop began its first tick of a run. -/
inductive Beginning (hub final : Hub) (loop : Nat) (begun : Instant)
    (tick : OperationId) : Timeline → Prop where
  | found (first last : Timeline) (event : HubEvent) (middle : Hub)
      (step : Progress) (firstRun : hub.run first = some middle)
      (reacted : middle.react begun event = some step)
      (lastRun : step.hub.run last = some final)
      (lived : SnapshotLoop.moment? middle.loops[loop]? step.hub.loops[loop]? =
        some .began)
      (named : tick = middle.nextOperation) :
      Beginning hub final loop begun tick (first ++ (begun, event) :: last)

theorem beginnings_first (hub final : Hub) (loop : Nat) (timeline : Timeline)
    (begun : Instant) (tick : OperationId) (others : List (Instant × OperationId))
    (reached : hub.run timeline = some final)
    (known : hub.beginnings loop timeline = (begun, tick) :: others) :
    Beginning hub final loop begun tick timeline := by
  induction timeline generalizing hub with
  | nil => cases known
  | cons entry rest ih =>
      obtain ⟨now, event⟩ := entry
      obtain ⟨step, reacted, restRun⟩ := (run_cons _ _ _ _ _).mp reached
      by_cases lived : SnapshotLoop.moment? hub.loops[loop]? step.hub.loops[loop]? =
        some .began
      · rw [hub.beginnings_began now event step loop rest reacted lived] at known
        cases known
        exact .found [] rest event hub step rfl reacted restRun lived rfl
      · have later : step.hub.beginnings loop rest = (begun, tick) :: others := by
          simpa [beginnings, reacted, if_neg lived] using known
        cases ih step.hub restRun later with
        | found first last act middle next firstRun acted lastRun begins named =>
            exact .found ((now, event) :: first) last act middle next
              ((run_cons _ _ _ _ _).mpr ⟨step, reacted, firstRun⟩) acted lastRun
              begins named

/-! ## From its beginning on -/

section

variable (hub final : Hub) (timeline : Timeline) (loop : Nat)
  (tick : OperationId) (ordered : hub.Ordered)
  (named : tick < hub.nextOperation) (reached : hub.run timeline = some final)

include ordered named reached

/-- A loop is inside of a tick with an old name only if it has been all along. -/
theorem loopTick?_run (inside : final.loopTick? loop = some tick) :
    hub.loopTick? loop = some tick := by
  induction timeline generalizing hub with
  | nil =>
      simp only [run, Option.some.injEq] at reached
      subst final
      exact inside
  | cons entry rest ih =>
      obtain ⟨now, event⟩ := entry
      obtain ⟨step, reacted, restRun⟩ := (run_cons _ _ _ _ _).mp reached
      have next := (hub.ordered_react now event step ordered reacted).1
      have later := (hub.flow_names step.hub
        (hub.react_flow now event step reacted)).1
      have after := ih step.hub next (Nat.lt_of_lt_of_le named later) restRun
      rcases hub.loopTick?_react now event step loop reacted ordered tick after with
        before | fresh
      · exact before
      · exact absurd named (fresh ▸ Nat.lt_irrefl _)

/-- Nothing happens to a loop as long as it is inside of one tick. -/
theorem life_inside (inside : final.loopTick? loop = some tick) :
    hub.life loop timeline = [] := by
  induction timeline generalizing hub with
  | nil => rfl
  | cons entry rest ih =>
      have before := hub.loopTick?_run final _ loop tick ordered named reached inside
      obtain ⟨now, event⟩ := entry
      obtain ⟨step, reacted, restRun⟩ := (run_cons _ _ _ _ _).mp reached
      have next := (hub.ordered_react now event step ordered reacted).1
      have later := Nat.lt_of_lt_of_le named (hub.flow_names step.hub
        (hub.react_flow now event step reacted)).1
      have after := step.hub.loopTick?_run final rest loop tick next later restRun
        inside
      have still : hub.moments step.hub now loop = [] := by
        rw [loopTick?_eq] at before after
        obtain ⟨⟨asked, phase⟩, found, ticking⟩ := Option.bind_eq_some_iff.mp before
        obtain ⟨⟨askedLater, phaseLater⟩, present, goesOn⟩ :=
          Option.bind_eq_some_iff.mp after
        rw [moments, found, present]
        cases phase <;> cases ticking
        cases phaseLater <;> cases goesOn
        rfl
      simp only [life, reacted, still, List.nil_append]
      exact ih step.hub next later restRun

/-- Unless the runtime is lost, a tick that a loop is inside of answers, or the loop
stays inside of it. -/
theorem inside_run (consistent : hub.Consistent)
    (inside : hub.loopTick? loop = some tick)
    (kept : ∀ entry ∈ timeline, entry.2 ≠ .loseRuntime) :
    final.loopTick? loop = some tick ∨
      ∃ reply, .returned tick reply ∈ hub.journal timeline := by
  rcases hub.tick_run final timeline tick consistent
      ((hub.mem_scheduledTicks tick).mpr ⟨loop, inside⟩) kept reached with
    still | answered
  · obtain ⟨other, ticking⟩ := (final.mem_scheduledTicks tick).mp still
    have before := hub.loopTick?_run final timeline other tick ordered named reached
      ticking
    have same := hub.inside_unique other loop ordered.linked
      (hub.isInside_of_loopTick other tick before)
      (hub.isInside_of_loopTick loop tick inside)
    exact Or.inl (same ▸ ticking)
  · exact Or.inr answered

end

/-! ## Loops that are not over -/

theorem wanes_run (hub final : Hub) (timeline : Timeline)
    (reached : hub.run timeline = some final) : hub.Wanes final :=
  run_induction (motive := hub.Wanes)
    (fun before now event step wanes reacted =>
      wanes_trans _ _ _ wanes
        (before.wanes_evolves _ now (before.react_evolves now event step reacted)))
    (fun _ loop found => ⟨loop, found, fun _ => rfl, fun asked => asked⟩) reached

section

variable (hub final : Hub) (timeline : Timeline) (loop : Nat)
  (reached : hub.run timeline = some final)
  (going : final.loopFinished loop = false)

include reached going

theorem going_run (here : SnapshotLoop) (found : hub.loops[loop]? = some here) :
    here.isFinished = false := by
  obtain ⟨later, present, stays, _⟩ := hub.wanes_run final timeline reached loop
    here found
  rw [loopFinished, present] at going
  rw [← Bool.not_eq_true]
  intro isOver
  rw [SnapshotLoop.isFinished, ← stays isOver] at isOver
  cases going.symm.trans isOver

/-- A loop that is not over has not lost its runtime. -/
theorem unlost_run (here : SnapshotLoop) (found : hub.loops[loop]? = some here) :
    ∀ entry ∈ timeline, entry.2 ≠ .loseRuntime := by
  rintro ⟨now, event⟩ member rfl
  obtain ⟨first, last, rfl⟩ := List.append_of_mem member
  obtain ⟨middle, firstRun, restRun⟩ := (run_append _ _ _ _).mp reached
  obtain ⟨step, reacted, lastRun⟩ := (run_cons _ _ _ _ _).mp restRun
  obtain ⟨between, known, _⟩ := hub.wanes_run middle first firstRun loop here found
  obtain ⟨later, present, isOver⟩ := middle.loseRuntime_over.2 loop between known
  simp only [react, Option.some.injEq] at reacted
  subst step
  rw [going_run _ final last loop lastRun going later present] at isOver
  cases isOver

end

end AlarmRelay.Hub
