import AlarmRelay.Proofs.Hub.Chain
import AlarmRelay.Proofs.Run

/-!
# Loops of a running hub

A start may extend the chain of a hub's loops and every other event changes it by
moves alone, so every hub that a run reaches is linked and no loop is ever set
back.
-/

set_option autoImplicit false

namespace AlarmRelay

/-- The loop as a link of the chain. -/
def SnapshotLoop.link (loop : SnapshotLoop) : Link where
  cancelled := loop.cancelled
  stage := match loop.phase with
    | .waiting previous => .waiting previous
    | .idle _ _ | .ticking _ _ _ => .inside
    | .finished _ => .isOver

namespace Hub

/-- The chain of a hub's loops. -/
def chain (hub : Hub) : Chain where
  interval := hub.interval
  links := hub.loops.map SnapshotLoop.link
  task := hub.task
  latest := hub.latest

theorem chain_links (hub : Hub) (id : Nat) :
    hub.chain.links[id]? = (hub.loops[id]?).map SnapshotLoop.link := by
  simp [chain]

theorem loopFinished_iff (hub : Hub) (id : Nat) :
    hub.loopFinished id = true ↔ hub.chain.Over id := by
  simp only [loopFinished, Chain.Over, chain_links]
  cases hub.loops[id]? with
  | none => simp
  | some loop =>
      obtain ⟨cancelled, phase⟩ := loop
      cases phase <;>
        simp [SnapshotLoop.isFinished, SnapshotLoop.link]

theorem isInside_iff (hub : Hub) (id : Nat) :
    hub.isInside id = true ↔
      ∃ cancelled, hub.chain.links[id]? = some ⟨cancelled, .inside⟩ := by
  simp only [isInside, chain_links]
  cases hub.loops[id]? with
  | none => simp
  | some loop =>
      obtain ⟨cancelled, phase⟩ := loop
      cases phase <;> simp [SnapshotLoop.isInside, SnapshotLoop.link]

theorem isLive_iff (hub : Hub) (id : Nat) :
    hub.isLive id = true ↔
      ∃ stage, hub.chain.links[id]? = some ⟨false, stage⟩ ∧
        stage ≠ .isOver := by
  simp only [isLive, chain_links]
  cases hub.loops[id]? with
  | none => simp
  | some loop =>
      obtain ⟨cancelled, phase⟩ := loop
      cases cancelled <;> cases phase <;>
        simp [SnapshotLoop.isLive, SnapshotLoop.isFinished, SnapshotLoop.link]

/-! ## Helpers of the hub -/

theorem chain_forget (hub : Hub) (id : OperationId) :
    (hub.forget id).chain = hub.chain := by
  have same : ∀ loop : SnapshotLoop,
      (loop.tickEnded id).link = loop.link := by
    intro loop
    obtain ⟨cancelled, phase⟩ := loop
    cases phase with
    | ticking origin ticks current =>
        simp only [SnapshotLoop.tickEnded]
        split <;> rfl
    | waiting previous => rfl
    | idle origin ticks => rfl
    | finished result => rfl
  simp [chain, forget, same]

theorem chain_enter (hub : Hub) (id : Nat) (phase : LoopPhase) :
    (hub.updateLoop id (SnapshotLoop.enter phase)).chain =
      hub.chain.put id (SnapshotLoop.link ⟨false, phase⟩).stage := by
  simp only [chain, updateLoop, Chain.put, Chain.mk.injEq, true_and, and_true]
  apply List.ext_getElem?
  intro other
  simp only [List.getElem?_map, List.getElem?_modify]
  split <;> cases hub.loops[other]? <;> rfl

theorem chain_disown (hub : Hub) (id : Nat) (owned : hub.task = some id) :
    hub.disown.chain = hub.chain.release id := by
  unfold disown
  rw [owned]
  simp only [chain, updateLoop, Chain.release, Chain.mk.injEq, true_and,
    and_true]
  apply List.ext_getElem?
  intro other
  simp only [List.getElem?_map, List.getElem?_modify]
  split <;> cases hub.loops[other]? <;> rfl

theorem moves_disown (hub : Hub) :
    Chain.Moves hub.chain hub.disown.chain := by
  cases owned : hub.task with
  | none =>
      have same : hub.disown = hub := by
        unfold disown
        rw [owned]
      rw [same]
  | some id =>
      rw [chain_disown hub id owned]
      exact .single (.release hub.chain id owned)

theorem moves_reclaim (hub : Hub) :
    Chain.Moves hub.chain hub.reclaim.1.chain := by
  rcases hub.reclaim_hub with same | ⟨released, taken⟩
  · rw [same]
  · rw [taken]
    exact hub.moves_disown

theorem moves_forget (hub : Hub) (id : OperationId) :
    Chain.Moves hub.chain (hub.forget id).reclaim.1.chain := by
  have reclaimed := (hub.forget id).moves_reclaim
  rwa [chain_forget] at reclaimed

theorem moves_finishLoop (hub : Hub) (id : Nat) (result : LoopEnd)
    (move : Chain.Move hub.chain (hub.chain.put id .isOver)) :
    Chain.Moves hub.chain (hub.finishLoop id result).1.chain := by
  have ended := chain_enter hub id (.finished result)
  have reclaimed :=
    (hub.updateLoop id (SnapshotLoop.enter (.finished result))).moves_reclaim
  rw [ended] at reclaimed
  exact .head move reclaimed

theorem moves_kill (hub : Hub) (id : Nat) (result : LoopEnd)
    (earlier : ∀ other, other < id → hub.chain.Over other) :
    Chain.Moves hub.chain (hub.finishLoop id result).1.chain ∧
      (hub.finishLoop id result).1.chain.Over id := by
  have ended := chain_enter hub id (.finished result)
  have reclaimed :=
    (hub.updateLoop id (SnapshotLoop.enter (.finished result))).moves_reclaim
  rw [ended] at reclaimed
  refine ⟨.head (.kill hub.chain id earlier) reclaimed, ?_⟩
  have isOver : (hub.chain.put id .isOver).Over id := by
    intro link found
    rw [Chain.links_put, if_pos rfl] at found
    obtain ⟨before, _, rfl⟩ := Option.map_eq_some_iff.mp found
    rfl
  exact Chain.over_moves _ _ id isOver reclaimed

/-! ## Events of the hub -/

theorem moves_advance (hub : Hub) (id : OperationId) (step : Progress)
    (advanced : hub.advance id = some step) :
    Chain.Moves hub.chain step.hub.chain := by
  obtain ⟨operation, found⟩ := advance_operation hub id step advanced
  cases advance_cases hub id operation step found advanced with
  | answers _ registry reply _ answer result replied =>
      rw [result]
      exact moves_forget { hub with registry := registry } id
  | scans _ held somebody result silent =>
      rw [result]
      exact .refl
  | walks _ next delivery _ held before after result silent =>
      rw [result]
      exact .refl

theorem moves_advanceLoop (hub : Hub) (now : Instant) (id : Nat)
    (result : Hub × List Signal) (timed : hub.interval.isZero = false)
    (advanced : hub.advanceLoop now id = some result) :
    Chain.Moves hub.chain result.1.chain := by
  have shape := hub.advanceLoop_cases now id result advanced
  generalize result.1 = next at shape ⊢
  cases shape with
  | enters cancelled previous found free _ =>
      rw [chain_enter]
      apply Relation.ReflTransGen.single
      apply Chain.Move.enter hub.chain id cancelled previous
      · simp [chain_links, found, SnapshotLoop.link]
      · intro loop behind
        exact (hub.loopFinished_iff loop).mp (free loop behind)
  | refuses cancelled previous found free untimed =>
      rw [timed] at untimed
      cases untimed
  | exits origin ticks found =>
      apply moves_finishLoop
      apply Chain.Move.exit hub.chain id true
      simp [chain_links, found, SnapshotLoop.link]
  | begins origin ticks found due =>
      rw [chain_enter]
      -- The loop was inside its schedule and still is.
      have stays : hub.chain.put id .inside = hub.chain := by
        apply Chain.put_same hub.chain id false
        simp [chain_links, found, SnapshotLoop.link]
      have same : (hub.begin (.tick .checking)).1.chain = hub.chain := rfl
      rw [same]
      exact stays.symm ▸ Relation.ReflTransGen.refl
  | ticks cancelled origin ticks operation step found stepped =>
      exact hub.moves_advance operation step stepped

theorem moves_killLoop (hub : Hub) (id : Nat)
    (earlier : ∀ other, other < id → hub.chain.Over other) :
    Chain.Moves hub.chain (hub.killLoop id).1.chain ∧
      (hub.killLoop id).1.chain.Over id := by
  have shape := hub.killLoop_cases id
  generalize (hub.killLoop id).1 = next at shape ⊢
  cases shape with
  | isOver ended => exact ⟨.refl, (hub.loopFinished_iff id).mp ended⟩
  | between running calm => exact hub.moves_kill id .killed earlier
  | inside running operation ticking =>
      have dropped := hub.moves_forget operation
      have killed := (hub.forget operation).reclaim.1.moves_kill id .killed
        (fun other before =>
          Chain.over_moves _ _ other (earlier other before) dropped)
      exact ⟨dropped.trans killed.1, killed.2⟩

theorem moves_loseRuntime (hub : Hub) :
    Chain.Moves hub.chain hub.loseRuntime.1.chain := by
  have all := hub.loseRuntime_induction
    (motive := fun count next => Chain.Moves hub.chain next.chain ∧
      ∀ id, id < count → next.chain.Over id)
    ⟨.refl, by intro id none; omega⟩
    (by
      intro count next _ ⟨moves, isOver⟩
      obtain ⟨killed, last⟩ := next.moves_killLoop count isOver
      refine ⟨moves.trans killed, ?_⟩
      intro id before
      rcases Nat.lt_succ_iff_lt_or_eq.mp before with sooner | same
      · exact Chain.over_moves _ _ id (isOver id sooner) killed
      · rw [same]
        exact last)
  exact all.1

theorem moves_stop (hub : Hub) : Chain.Moves hub.chain hub.stop.1.chain := by
  unfold stop
  split
  · exact .refl
  · exact hub.moves_disown

/-- A start leaves the hub alone or, where no owned loop is under way, extends
the chain. -/
theorem chain_start (hub : Hub) (now : Instant) (inRuntime : Bool)
    (step : Progress) (reacted : hub.react now (.start inRuntime) = some step) :
    step.hub = hub ∧ (hub.isRunning = true ∨ inRuntime = false) ∨
      (hub.isRunning = false ∧ inRuntime = true) ∧
        (∀ id, hub.task = some id → hub.chain.Over id) ∧
          step.hub.chain = hub.chain.extend := by
  simp only [react, start] at reacted
  split at reacted
  · cases reacted
  · cases running : hub.isRunning with
    | true =>
        simp only [running, if_true, Option.some.injEq] at reacted
        subst step
        exact Or.inl ⟨rfl, Or.inl rfl⟩
    | false =>
        cases inRuntime with
        | false =>
            simp only [running, Bool.false_eq_true, if_false, Bool.not_false,
              if_true, Option.some.injEq] at reacted
            subst step
            exact Or.inl ⟨rfl, Or.inr rfl⟩
        | true =>
            simp only [running, Bool.false_eq_true, if_false, Bool.not_true,
              Option.some.injEq] at reacted
            subst step
            refine Or.inr ⟨⟨rfl, rfl⟩, ?_, ?_⟩
            · intro id owned
              rw [← loopFinished_iff]
              simpa [isRunning, owned] using running
            · simp [Chain.extend, chain, spawnLoop, SnapshotLoop.spawned,
                SnapshotLoop.link]

theorem moves_answerScan (hub : Hub) (id : OperationId)
    (outcome : ScanOutcome) :
    Chain.Moves hub.chain (hub.answerScan id outcome).hub.chain := by
  unfold answerScan
  split
  · cases outcome with
    | alarms alarms => exact .refl
    | failed error => exact hub.moves_forget id
    | panicked payload => exact hub.moves_forget id
  · exact .refl

theorem moves_answerCall (hub : Hub) (id : OperationId)
    (outcome : CallOutcome) :
    Chain.Moves hub.chain (hub.answerCall id outcome).1.chain := by
  unfold answerCall
  split <;> exact .refl

/-- Every event but a start changes the chain by moves alone. -/
theorem moves_react (hub : Hub) (now : Instant) (event : HubEvent)
    (step : Progress) (timed : hub.interval.isZero = false)
    (noStart : ∀ inRuntime, event ≠ .start inRuntime)
    (reacted : hub.react now event = some step) :
    Chain.Moves hub.chain step.hub.chain := by
  cases event with
  | ask request =>
      simp only [react] at reacted
      split at reacted
      · cases reacted
      · cases reacted
        dsimp only
        rw [ask_hub]
        exact .refl
  | start inRuntime => exact absurd rfl (noStart inRuntime)
  | stop =>
      simp only [react] at reacted
      split at reacted
      · cases reacted
      · have moved := hub.moves_stop
        split at reacted
        · rename_i next stopped
          cases reacted
          rwa [stopped] at moved
        · rename_i next id stopped
          cases reacted
          rwa [stopped] at moved
  | advance id => exact hub.moves_advance id step reacted
  | answerCall id outcome =>
      simp only [react] at reacted
      split at reacted
      · cases reacted
      · cases reacted
        exact hub.moves_answerCall id outcome
  | answerScan id outcome =>
      simp only [react] at reacted
      split at reacted
      · cases reacted
        exact hub.moves_answerScan id outcome
      · cases reacted
  | abandon id =>
      simp only [react] at reacted
      split at reacted
      · cases reacted
        exact hub.moves_forget id
      · cases reacted
  | advanceLoop loop =>
      simp only [react] at reacted
      obtain ⟨result, advanced, rfl⟩ := Option.map_eq_some_iff.mp reacted
      exact hub.moves_advanceLoop now loop result timed advanced
  | loseRuntime =>
      simp only [react] at reacted
      cases reacted
      exact hub.moves_loseRuntime
  | close =>
      simp only [react] at reacted
      split at reacted
      · cases reacted
      · cases reacted
        exact moves_reclaim { hub with closed := true }

/-- What the runs of a hub keep: its chain is linked and its interval is not
empty. -/
structure Ordered (hub : Hub) : Prop where
  linked : hub.chain.Linked
  timed : hub.interval.isZero = false

theorem ordered_create (config : HubConfig)
    (valid : config.validate = .ok ()) : (create config).Ordered where
  linked := by
    constructor <;> simp [create, chain, LoopId.previous?]
  timed := by
    unfold HubConfig.validate at valid
    split at valid
    · cases valid
    · rename_i timed
      simpa [create] using timed

theorem interval_react (hub : Hub) (now : Instant) (event : HubEvent)
    (step : Progress) (timed : hub.interval.isZero = false)
    (reacted : hub.react now event = some step) :
    step.hub.interval = hub.interval := by
  by_cases starts : ∃ inRuntime, event = .start inRuntime
  · obtain ⟨inRuntime, rfl⟩ := starts
    rcases hub.chain_start now inRuntime step reacted with
      ⟨same, _⟩ | ⟨_, _, grown⟩
    · rw [same]
    · exact congrArg Chain.interval grown
  · have moves := hub.moves_react now event step timed
      (fun inRuntime same => starts ⟨inRuntime, same⟩) reacted
    exact Chain.interval_moves _ _ moves

theorem ordered_react (hub : Hub) (now : Instant) (event : HubEvent)
    (step : Progress) (ordered : hub.Ordered)
    (reacted : hub.react now event = some step) :
    step.hub.Ordered ∧ ∀ id, hub.chain.rank id ≤ step.hub.chain.rank id := by
  have interval := hub.interval_react now event step ordered.timed reacted
  by_cases starts : ∃ inRuntime, event = .start inRuntime
  · obtain ⟨inRuntime, rfl⟩ := starts
    rcases hub.chain_start now inRuntime step reacted with
      ⟨same, _⟩ | ⟨_, free, grown⟩
    · rw [same]
      exact ⟨ordered, fun id => Nat.le_refl _⟩
    · refine ⟨⟨?_, ?_⟩, ?_⟩
      · rw [grown]
        exact Chain.linked_extend _ ordered.linked free
      · rw [interval]
        exact ordered.timed
      · intro id
        rw [grown]
        exact Chain.rank_extend _ id
  · have noStart : ∀ inRuntime, event ≠ .start inRuntime := by
      intro inRuntime same
      exact starts ⟨inRuntime, same⟩
    have moves := hub.moves_react now event step ordered.timed noStart reacted
    refine ⟨⟨Chain.linked_moves _ _ ordered.linked moves, ?_⟩, ?_⟩
    · rw [interval]
      exact ordered.timed
    · intro id
      exact Chain.rank_moves _ _ id moves

theorem ordered_run (config : HubConfig) (valid : config.validate = .ok ())
    (timeline : Timeline) (hub : Hub)
    (reached : (create config).run timeline = some hub) : hub.Ordered :=
  run_induction
    (fun before now event step ordered reacted =>
      (before.ordered_react now event step ordered reacted).1)
    (ordered_create config valid) reached

end Hub
end AlarmRelay
