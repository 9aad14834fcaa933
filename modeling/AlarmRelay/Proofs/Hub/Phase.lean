import AlarmRelay.Proofs.Hub.Alike
import AlarmRelay.Proofs.Hub.Loops

/-!
# What one event does to one loop

A loop goes through its phases one at a time: it enters its schedule, begins a
tick, ends it and is over at some point.  `PhaseStep` lists these ways with what
guards them; a cancellation is never taken back.
-/

set_option autoImplicit false

namespace AlarmRelay.Hub

/-- How the phase of a loop may change in one event at `now`. -/
inductive PhaseStep (hub : Hub) (now : Instant) (loop : SnapshotLoop) :
    LoopPhase → Prop where
  | stays : PhaseStep hub now loop loop.phase
  /-- The loop before it is over, so it enters its schedule. -/
  | enters (previous : Option LoopId) (found : loop.phase = .waiting previous)
      (free : ∀ other, previous = some other → hub.loopFinished other = true) :
      PhaseStep hub now loop (.idle now 0)
  /-- Its next tick is due, and nobody has asked it to shut down. -/
  | begins (origin : Instant) (ticks : Nat)
      (found : loop.phase = .idle origin ticks) (live : loop.cancelled = false)
      (due : SnapshotLoop.dueAt origin hub.interval ticks ≤ now) :
      PhaseStep hub now loop (.ticking origin ticks hub.nextOperation)
  | ends (origin : Instant) (ticks : Nat) (operation : OperationId)
      (found : loop.phase = .ticking origin ticks operation) :
      PhaseStep hub now loop (.idle origin (ticks + 1))
  | finishes (result : LoopEnd) (running : loop.isFinished = false) :
      PhaseStep hub now loop (.finished result)

/-- Every loop takes a step of its life or none, and none is set back. -/
def Evolves (hub : Hub) (now : Instant) (next : Hub) : Prop :=
  ∀ (id : Nat) (loop : SnapshotLoop), hub.loops[id]? = some loop →
    ∃ later, next.loops[id]? = some later ∧
      PhaseStep hub now loop later.phase ∧
        (loop.cancelled = true → later.cancelled = true)

/-- Every loop stays in its phase. -/
def Keeps (hub next : Hub) : Prop :=
  ∀ (id : Nat) (loop : SnapshotLoop), hub.loops[id]? = some loop →
    ∃ later, next.loops[id]? = some later ∧ later.phase = loop.phase ∧
      (loop.cancelled = true → later.cancelled = true)

theorem keeps_same (hub next : Hub) (same : next.loops = hub.loops) :
    hub.Keeps next := by
  intro id loop found
  exact ⟨loop, by rw [same, found], rfl, fun asked => asked⟩

theorem keeps_disown (hub : Hub) : hub.Keeps hub.disown := by
  unfold disown
  split
  · exact hub.keeps_same hub rfl
  · intro id loop found
    simp only [updateLoop, List.getElem?_modify, found]
    split
    · exact ⟨_, rfl, rfl, fun _ => rfl⟩
    · exact ⟨_, rfl, rfl, fun asked => asked⟩

theorem keeps_reclaim (hub : Hub) : hub.Keeps hub.reclaim.1 := by
  rcases hub.reclaim_hub with same | ⟨released, taken⟩
  · rw [same]
    exact hub.keeps_same hub rfl
  · rw [taken]
    exact hub.keeps_disown

theorem evolves_keeps (hub next : Hub) (now : Instant) (keeps : hub.Keeps next) :
    hub.Evolves now next := by
  intro id loop found
  obtain ⟨later, present, phase, asked⟩ := keeps id loop found
  exact ⟨later, present, phase.symm ▸ .stays, asked⟩

theorem evolves_trans (hub middle next : Hub) (now : Instant)
    (evolves : hub.Evolves now middle) (keeps : middle.Keeps next) :
    hub.Evolves now next := by
  intro id loop found
  obtain ⟨between, present, phases, asked⟩ := evolves id loop found
  obtain ⟨later, after, phase, still⟩ := keeps id between present
  exact ⟨later, after, phase.symm ▸ phases, fun cancelled => still (asked cancelled)⟩

theorem evolves_update (hub next : Hub) (now : Instant) (id : Nat)
    (loop : SnapshotLoop) (phase : LoopPhase)
    (found : hub.loops[id]? = some loop)
    (moves : PhaseStep hub now loop phase)
    (result : next.loops = hub.loops.modify id (SnapshotLoop.enter phase)) :
    hub.Evolves now next := by
  intro other here present
  rw [result, List.getElem?_modify, present]
  split
  · rename_i same
    subst same
    rw [found] at present
    cases present
    exact ⟨_, rfl, moves, fun asked => asked⟩
  · exact ⟨here, rfl, .stays, fun asked => asked⟩

theorem evolves_forget (hub : Hub) (now : Instant) (registry : Registry)
    (id : OperationId) :
    hub.Evolves now ({ hub with registry := registry }.forget id).reclaim.1 := by
  refine hub.evolves_trans _ _ now ?_ (keeps_reclaim _)
  intro other loop found
  refine ⟨loop.tickEnded id, by simp [forget, found], ?_, ?_⟩
  · unfold SnapshotLoop.tickEnded
    split
    · rename_i origin ticks current inside
      split
      · exact .ends origin ticks current inside
      · exact .stays
    · exact .stays
  · intro asked
    unfold SnapshotLoop.tickEnded
    split
    · split
      · exact asked
      · exact asked
    · exact asked

theorem evolves_finish (hub : Hub) (now : Instant) (id : Nat)
    (loop : SnapshotLoop) (result : LoopEnd)
    (found : hub.loops[id]? = some loop) (running : loop.isFinished = false) :
    hub.Evolves now (hub.finishLoop id result).1 :=
  hub.evolves_trans _ _ now
    (hub.evolves_update _ now id loop (.finished result) found
      (.finishes result running) rfl)
    (keeps_reclaim _)

/-! ## Events -/

theorem evolves_advance (hub : Hub) (now : Instant) (id : OperationId)
    (step : Progress) (advanced : hub.advance id = some step) :
    hub.Evolves now step.hub := by
  obtain ⟨operation, found⟩ := advance_operation hub id step advanced
  cases advance_cases hub id operation step found advanced with
  | answers _ registry reply _ answer result replied =>
      rw [result]
      exact hub.evolves_forget now registry id
  | scans _ held somebody result silent =>
      rw [result]
      exact hub.evolves_keeps _ now (hub.keeps_same _ rfl)
  | walks _ next delivery _ held before after result silent =>
      rw [result]
      exact hub.evolves_keeps _ now (hub.keeps_same _ rfl)

theorem evolves_advanceLoop (hub : Hub) (now : Instant) (id : Nat)
    (result : Hub × List Signal)
    (advanced : hub.advanceLoop now id = some result) :
    hub.Evolves now result.1 := by
  have shape := hub.advanceLoop_cases now id result advanced
  generalize result.1 = next at shape ⊢
  cases shape with
  | enters cancelled previous found free timed =>
      exact hub.evolves_update _ now id _ _ found (.enters previous rfl free) rfl
  | refuses cancelled previous found free untimed =>
      exact hub.evolves_finish now id _ .panicked found rfl
  | exits origin ticks found =>
      exact hub.evolves_finish now id _ .exited found rfl
  | begins origin ticks found due =>
      exact hub.evolves_update _ now id _ _ found
        (.begins origin ticks rfl rfl due) rfl
  | ticks cancelled origin ticks operation step found stepped =>
      exact hub.evolves_advance now operation step stepped

/-- Whoever is over stays so, and no cancellation is taken back. -/
def Wanes (hub next : Hub) : Prop :=
  ∀ (id : Nat) (loop : SnapshotLoop), hub.loops[id]? = some loop →
    ∃ later, next.loops[id]? = some later ∧
      (loop.isFinished = true → later.phase = loop.phase) ∧
        (loop.cancelled = true → later.cancelled = true)

theorem wanes_trans (first second third : Hub) (one : first.Wanes second)
    (other : second.Wanes third) : first.Wanes third := by
  intro id loop found
  obtain ⟨between, present, ended, asked⟩ := one id loop found
  obtain ⟨later, after, stays, still⟩ := other id between present
  refine ⟨later, after, ?_, fun cancelled => still (asked cancelled)⟩
  intro isOver
  have same := ended isOver
  rw [← same]
  apply stays
  rw [SnapshotLoop.isFinished, same]
  exact isOver

theorem wanes_evolves (hub next : Hub) (now : Instant)
    (evolves : hub.Evolves now next) : hub.Wanes next := by
  intro id loop found
  obtain ⟨later, present, phases, asked⟩ := evolves id loop found
  refine ⟨later, present, ?_, asked⟩
  intro isOver
  generalize later.phase = phase at phases ⊢
  cases phases with
  | stays => rfl
  | enters previous waits free =>
      rw [SnapshotLoop.isFinished, waits] at isOver
      cases isOver
  | begins origin ticks idle live due =>
      rw [SnapshotLoop.isFinished, idle] at isOver
      cases isOver
  | ends origin ticks operation inside =>
      rw [SnapshotLoop.isFinished, inside] at isOver
      cases isOver
  | finishes result running =>
      rw [running] at isOver
      cases isOver

theorem finishLoop_over (hub : Hub) (id : Nat) (loop : SnapshotLoop)
    (result : LoopEnd) (found : hub.loops[id]? = some loop) :
    ∃ later, (hub.finishLoop id result).1.loops[id]? = some later ∧
      later.isFinished = true := by
  obtain ⟨later, present, phase, _⟩ := keeps_reclaim
    (hub.updateLoop id (SnapshotLoop.enter (.finished result))) id
    (loop.enter (.finished result)) (by simp [updateLoop, found])
  refine ⟨later, present, ?_⟩
  rw [SnapshotLoop.isFinished, phase]
  rfl

theorem killLoop_over (hub : Hub) (id : Nat) :
    hub.Wanes (hub.killLoop id).1 ∧
      ∀ loop, hub.loops[id]? = some loop →
        ∃ later, (hub.killLoop id).1.loops[id]? = some later ∧
          later.isFinished = true := by
  have shape := hub.killLoop_cases id
  generalize (hub.killLoop id).1 = next at shape ⊢
  cases shape with
  | isOver ended =>
      refine ⟨fun _ loop found => ⟨loop, found, fun _ => rfl, fun asked => asked⟩, ?_⟩
      intro loop found
      exact ⟨loop, found, by simpa [loopFinished, found] using ended⟩
  | between running calm =>
      obtain ⟨here, present⟩ : ∃ loop, hub.loops[id]? = some loop := by
        cases found : hub.loops[id]? with
        | none => simp [loopFinished, found] at running
        | some loop => exact ⟨loop, rfl⟩
      have underWay : here.isFinished = false := by
        simpa [loopFinished, present] using running
      refine ⟨hub.wanes_evolves _ .zero
        (hub.evolves_finish .zero id here .killed present underWay), ?_⟩
      intro loop found
      exact hub.finishLoop_over id loop .killed found
  | inside running operation ticking =>
      obtain ⟨⟨cancelled, phase⟩, present, tick⟩ := Option.bind_eq_some_iff.mp
        (hub.loopTick?_eq id ▸ ticking)
      cases phase with
      | ticking origin ticks current =>
          cases tick
          obtain ⟨between, after, idle, _⟩ := keeps_reclaim
            (hub.forget operation) id ⟨cancelled, .idle origin (ticks + 1)⟩
            (by simp [forget, present, SnapshotLoop.tickEnded])
          have underWay : between.isFinished = false := by
            rw [SnapshotLoop.isFinished, idle]
          have dropped := hub.wanes_evolves _ .zero
            (hub.evolves_forget .zero hub.registry operation)
          have killed := wanes_evolves _ _ .zero
            (evolves_finish _ .zero id between .killed after underWay)
          refine ⟨wanes_trans _ _ _ dropped killed, ?_⟩
          intro loop _
          exact finishLoop_over _ id between .killed after
      | _ => cases tick

/-- After the loss of the runtime every loop is over. -/
theorem loseRuntime_over (hub : Hub) :
    hub.Wanes hub.loseRuntime.1 ∧
      ∀ (id : Nat) (loop : SnapshotLoop), hub.loops[id]? = some loop →
        ∃ later, hub.loseRuntime.1.loops[id]? = some later ∧
          later.isFinished = true := by
  obtain ⟨wanes, ended⟩ := hub.loseRuntime_induction
    (motive := fun count next => hub.Wanes next ∧ ∀ id, id < count →
      ∀ loop, hub.loops[id]? = some loop →
        ∃ later, next.loops[id]? = some later ∧ later.isFinished = true)
    ⟨fun _ loop found => ⟨loop, found, fun _ => rfl, fun asked => asked⟩,
      by intro id none; omega⟩
    (by
      intro count next _ ⟨wanes, ended⟩
      obtain ⟨killed, last⟩ := next.killLoop_over count
      refine ⟨wanes_trans _ _ _ wanes killed, ?_⟩
      intro id before loop found
      rcases Nat.lt_succ_iff_lt_or_eq.mp before with sooner | same
      · obtain ⟨between, present, isOver⟩ := ended id sooner loop found
        obtain ⟨later, after, stays, _⟩ := killed id between present
        refine ⟨later, after, ?_⟩
        rw [SnapshotLoop.isFinished, stays isOver]
        exact isOver
      · subst same
        obtain ⟨between, present, _⟩ := wanes id loop found
        exact last between present)
  exact ⟨wanes, fun id loop found =>
    ended id (List.getElem?_eq_some_iff.mp found).1 loop found⟩

theorem evolves_loseRuntime (hub : Hub) (now : Instant) :
    hub.Evolves now hub.loseRuntime.1 := by
  obtain ⟨wanes, ended⟩ := hub.loseRuntime_over
  intro id loop found
  obtain ⟨later, present, stays, asked⟩ := wanes id loop found
  obtain ⟨same, after, isOver⟩ := ended id loop found
  rw [present] at after
  cases after
  refine ⟨later, present, ?_, asked⟩
  cases running : loop.isFinished with
  | true =>
      rw [stays running]
      exact .stays
  | false =>
      obtain ⟨cancelled, phase⟩ := later
      cases phase with
      | finished result => exact .finishes result running
      | _ => cases isOver

theorem evolves_answerScan (hub : Hub) (now : Instant) (id : OperationId)
    (outcome : ScanOutcome) : hub.Evolves now (hub.answerScan id outcome).hub := by
  unfold answerScan
  split
  · cases outcome with
    | alarms alarms => exact hub.evolves_keeps _ now (hub.keeps_same _ rfl)
    | failed error => exact hub.evolves_forget now hub.registry id
    | panicked payload => exact hub.evolves_forget now hub.registry id
  · exact hub.evolves_keeps _ now (hub.keeps_same _ rfl)

theorem start_loops (hub : Hub) (now : Instant) (inRuntime : Bool)
    (step : Progress) (reacted : hub.react now (.start inRuntime) = some step) :
    step.hub.loops = hub.loops ∨
      (inRuntime = true ∧
        step.hub.loops = hub.loops ++ [.spawned hub.latest]) := by
  simp only [react, start] at reacted
  split at reacted
  · cases reacted
  · cases running : hub.isRunning with
    | true =>
        simp only [running, if_true, Option.some.injEq] at reacted
        subst step
        exact Or.inl rfl
    | false =>
        cases inRuntime with
        | false =>
            simp only [running, Bool.false_eq_true, if_false, Bool.not_false,
              if_true, Option.some.injEq] at reacted
            subst step
            exact Or.inl rfl
        | true =>
            simp only [running, Bool.false_eq_true, if_false, Bool.not_true,
              Option.some.injEq] at reacted
            subst step
            exact Or.inr ⟨rfl, rfl⟩

/-- Every event lets every loop take one step of its life or none. -/
theorem react_evolves (hub : Hub) (now : Instant) (event : HubEvent)
    (step : Progress) (reacted : hub.react now event = some step) :
    hub.Evolves now step.hub := by
  cases event with
  | ask request =>
      simp only [react] at reacted
      split at reacted
      · cases reacted
      · cases reacted
        dsimp only
        rw [ask_hub]
        exact hub.evolves_keeps _ now (hub.keeps_same _ rfl)
  | start inRuntime =>
      apply hub.evolves_keeps
      rcases hub.start_loops now inRuntime step reacted with same | ⟨_, grown⟩
      · exact hub.keeps_same _ same
      · intro id loop found
        have within := (List.getElem?_eq_some_iff.mp found).1
        refine ⟨loop, ?_, rfl, fun asked => asked⟩
        rw [grown, List.getElem?_append_left within, found]
  | stop =>
      have stopped : hub.Keeps hub.stop.1 := by
        unfold stop
        split
        · exact hub.keeps_same _ rfl
        · exact hub.keeps_disown
      simp only [react] at reacted
      split at reacted
      · cases reacted
      · split at reacted
        · rename_i next idle
          cases reacted
          rw [idle] at stopped
          exact hub.evolves_keeps _ now stopped
        · rename_i next id waits
          cases reacted
          rw [waits] at stopped
          exact hub.evolves_keeps _ now stopped
  | advance id => exact hub.evolves_advance now id step reacted
  | answerCall id outcome =>
      have answered : hub.Keeps (hub.answerCall id outcome).1 := by
        unfold answerCall
        split <;> exact hub.keeps_same _ rfl
      simp only [react] at reacted
      split at reacted
      · cases reacted
      · cases reacted
        exact hub.evolves_keeps _ now answered
  | answerScan id outcome =>
      simp only [react] at reacted
      split at reacted
      · cases reacted
        exact hub.evolves_answerScan now id outcome
      · cases reacted
  | abandon id =>
      simp only [react] at reacted
      split at reacted
      · cases reacted
        exact hub.evolves_forget now hub.registry id
      · cases reacted
  | advanceLoop loop =>
      simp only [react] at reacted
      obtain ⟨result, advanced, rfl⟩ := Option.map_eq_some_iff.mp reacted
      exact hub.evolves_advanceLoop now loop result advanced
  | loseRuntime =>
      simp only [react] at reacted
      cases reacted
      exact hub.evolves_loseRuntime now
  | close =>
      simp only [react] at reacted
      split at reacted
      · cases reacted
      · cases reacted
        have kept := keeps_reclaim { hub with closed := true }
        exact hub.evolves_keeps _ now kept

/-- A loop that is new after an event was spawned by a start, behind the one
spawned last. -/
theorem react_spawned (hub : Hub) (now : Instant) (event : HubEvent)
    (step : Progress) (id : Nat) (loop : SnapshotLoop) (ordered : hub.Ordered)
    (reacted : hub.react now event = some step)
    (before : hub.loops[id]? = none) (after : step.hub.loops[id]? = some loop) :
    event = .start true ∧ hub.loops.length = id ∧
      loop = .spawned (LoopId.previous? id) := by
  have beyond : hub.loops.length ≤ id := List.getElem?_eq_none_iff.mp before
  have within : id < step.hub.loops.length :=
    (List.getElem?_eq_some_iff.mp after).1
  by_cases starts : ∃ inRuntime, event = .start inRuntime
  · obtain ⟨inRuntime, rfl⟩ := starts
    rcases hub.start_loops now inRuntime step reacted with same | ⟨inside, grown⟩
    · rw [same, before] at after
      cases after
    · rw [grown] at after within
      rw [List.length_append, List.length_singleton] at within
      have place : id = hub.loops.length := by omega
      subst place
      rw [List.getElem?_append_right (Nat.le_refl _), Nat.sub_self,
        List.getElem?_cons_zero] at after
      refine ⟨by rw [inside], rfl, ?_⟩
      rw [← Option.some.inj after]
      have latest : hub.latest = LoopId.previous? hub.loops.length := by
        simpa [chain] using ordered.linked.latest
      rw [latest]
  · -- Nothing but a start lets the chain grow.
    have moves := hub.moves_react now event step ordered.timed
      (fun inRuntime same => starts ⟨inRuntime, same⟩) reacted
    have length := Chain.length_moves _ _ moves
    have same : step.hub.loops.length = hub.loops.length := by
      simpa [chain] using length
    omega

end AlarmRelay.Hub
