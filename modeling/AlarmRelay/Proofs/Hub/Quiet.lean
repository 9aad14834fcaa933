import AlarmRelay.Proofs.Hub.Fate
import AlarmRelay.Proofs.Hub.LoopOrder

/-!
# What a returned stop means

A stop that takes the owned loop returns only after every loop of the hub is
over.  A stop that finds no owned loop returns at once, and then the tick of a
loop that an earlier stop has taken may still be under way.  Either way no tick
begins before the next start.
-/

set_option autoImplicit false

namespace AlarmRelay

/-- A part of a run in which nobody starts the scheduler. -/
def Timeline.StartsNothing (timeline : Timeline) : Prop :=
  ∀ entry ∈ timeline, ∀ inRuntime, entry.2 ≠ .start inRuntime

namespace Hub

/-- A call of stop on `called` and everything up to its return. -/
inductive StopReturns (called : Hub) : Timeline → Hub → Prop where
  /-- No loop is owned, so it returns at once. -/
  | atOnce (now : Instant) (step : Progress)
      (stopped : called.react now .stop = some step)
      (replied : step.reply = some .stopped) :
      StopReturns called [(now, .stop)] step.hub
  /-- It takes the owned loop, waits for it and returns. -/
  | joined (now later : Instant) (begun step : Progress) (during : Timeline)
      (before : Hub) (stopped : called.react now .stop = some begun)
      (silent : begun.reply = none) (waited : begun.hub.run during = some before)
      (advanced : before.react later (.advance called.nextOperation) = some step)
      (replied : step.reply = some .stopped) :
      StopReturns called
        ((now, .stop) :: during ++ [(later, .advance called.nextOperation)])
        step.hub

/-! ## Runs without a start -/

theorem moves_run (hub final : Hub) (timeline : Timeline)
    (timed : hub.interval.isZero = false)
    (noStart : Timeline.StartsNothing timeline)
    (reached : hub.run timeline = some final) :
    Chain.Moves hub.chain final.chain := by
  induction timeline generalizing hub with
  | nil =>
      simp only [run, Option.some.injEq] at reached
      rw [reached]
  | cons entry rest ih =>
      obtain ⟨now, event⟩ := entry
      obtain ⟨step, reacted, restRun⟩ := (run_cons _ _ _ _ _).mp reached
      have moves := hub.moves_react now event step timed
        (noStart _ List.mem_cons_self) reacted
      have interval : step.hub.interval = hub.interval :=
        Chain.interval_moves _ _ moves
      exact moves.trans (ih step.hub (by rw [interval]; exact timed)
        (fun other member => noStart other (List.mem_cons_of_mem _ member))
        restRun)

/-- A hub that owns no loop begins no tick until the next start. -/
theorem unowned_run (hub final : Hub) (timeline : Timeline)
    (ordered : hub.Ordered) (free : hub.task = none)
    (noStart : Timeline.StartsNothing timeline)
    (reached : hub.run timeline = some final) : hub.ticksBegun timeline = [] := by
  induction timeline generalizing hub with
  | nil => rfl
  | cons entry rest ih =>
      obtain ⟨now, event⟩ := entry
      obtain ⟨step, reacted, restRun⟩ := (run_cons _ _ _ _ _).mp reached
      have moves := hub.moves_react now event step ordered.timed
        (noStart _ List.mem_cons_self) reacted
      have none : hub.newTicks step.hub = [] := by
        apply List.eq_nil_iff_forall_not_mem.mpr
        intro id begun
        obtain ⟨⟨loop, live⟩, _⟩ := hub.mem_newTicks step.hub
          (hub.react_flow now event step reacted) id begun
        have owned := ((hub.isLive_owned loop ordered.linked).mp live).2
        rw [free] at owned
        cases owned
      have later := ih step.hub
        (hub.ordered_react now event step ordered reacted).1
        (Chain.task_moves _ _ moves free)
        (fun other member => noStart other (List.mem_cons_of_mem _ member))
        restRun
      rw [ticksBegun_eq] at later ⊢
      simp only [observe, reacted, none, later, List.append_nil]

/-! ## The operation of a stop -/

/-- An operation that waits for a loop does so until it is gone. -/
structure Awaits (hub : Hub) (id : OperationId) (loop : LoopId) : Prop where
  consistent : hub.Consistent
  named : id < hub.nextOperation
  waits : ∀ operation, hub.operation? id = some operation →
    operation = .awaitExit loop

theorem awaits_react (hub : Hub) (now : Instant) (event : HubEvent)
    (step : Progress) (id : OperationId) (loop : LoopId)
    (awaits : hub.Awaits id loop)
    (reacted : hub.react now event = some step) :
    step.hub.Awaits id loop where
  consistent := hub.consistent_turn event step awaits.consistent
    (hub.react_turn now event step reacted)
  named := Nat.lt_of_lt_of_le awaits.named
    (hub.flow_names step.hub (hub.react_flow now event step reacted)).1
  waits := by
    intro operation found
    cases hub.react_fate now event step id awaits.consistent reacted with
    | stays same began ended =>
        rw [same] at found
        exact awaits.waits operation found
    | begins fresh named calm before after began ended =>
        exact absurd named (Nat.ne_of_lt awaits.named)
    | moves old next heard motion before after began ended outcomes =>
        have waiting := awaits.waits old before
        subst waiting
        cases motion with
        | walks _ _ delivery held walk _ => cases walk
        | hears _ _ delivery listener rest report outcome walk _ => cases walk
    | answers old registry reply answer before after listeners replied began
        ended =>
        rw [after] at found
        cases found
    | drops old before after silent began ended =>
        rw [after] at found
        cases found

/-- A stop answers once the loop that it waits for is over. -/
theorem awaits_over (hub : Hub) (now : Instant) (id : OperationId)
    (loop : LoopId) (step : Progress) (awaits : hub.Awaits id loop)
    (advanced : hub.react now (.advance id) = some step) :
    hub.loopFinished loop = true := by
  obtain ⟨operation, found⟩ := advance_operation hub id step advanced
  have shape := advance_cases hub id operation step found advanced
  have waiting := awaits.waits operation found
  subst waiting
  cases shape with
  | answers _ registry answered _ answer result answeredReply =>
      cases answer with
      | exits _ isOver => exact isOver
      | reads _ _ held read => cases read
      | ends _ delivery report _ before reported => cases before
  | walks _ next delivery _ held before after result silent => cases before

/-! ## Stops -/

/-- Every loop before a finished one is over, so once the last is over no loop is
inside a tick. -/
theorem scheduledTicks_of_over (hub : Hub) (last : Nat)
    (linked : hub.chain.Linked) (final : hub.chain.links.length = last + 1)
    (isOver : hub.chain.Over last) : hub.scheduledTicks = [] := by
  apply List.eq_nil_iff_forall_not_mem.mpr
  intro id member
  obtain ⟨loop, ticking⟩ := (hub.mem_scheduledTicks id).mp member
  obtain ⟨cancelled, inside⟩ := (hub.isInside_iff loop).mp
    (hub.isInside_of_loopTick loop id ticking)
  have within := (List.getElem?_eq_some_iff.mp inside).1
  rcases Nat.lt_or_ge loop last with before | beyond
  · have done := Chain.rank_of_over hub.chain last isOver (by omega)
    have earlier := rank_order hub.chain loop last linked (by omega) before
    have here := (hub.rank_inside loop).mp
      (hub.isInside_of_loopTick loop id ticking)
    omega
  · have same : loop = last := by omega
    rw [same] at inside
    cases isOver _ inside

theorem stop_unowned (hub : Hub) (now : Instant) (step : Progress)
    (stopped : hub.react now .stop = some step)
    (replied : step.reply = some .stopped) :
    hub.task = none ∧ step.hub = hub := by
  simp only [react, stop] at stopped
  split at stopped
  · cases stopped
  · cases owned : hub.task with
    | none =>
        simp only [owned] at stopped
        cases stopped
        exact ⟨rfl, rfl⟩
    | some loop =>
        simp only [owned] at stopped
        cases stopped
        cases replied

theorem stop_owned (hub : Hub) (now : Instant) (step : Progress)
    (stopped : hub.react now .stop = some step) (silent : step.reply = none) :
    ∃ loop : Nat, hub.task = some loop ∧
      step.hub.chain = hub.chain.release loop ∧
        step.hub.Alike (hub.begin (.awaitExit loop)).1 := by
  simp only [react, stop] at stopped
  split at stopped
  · cases stopped
  · cases owned : hub.task with
    | none =>
        simp only [owned] at stopped
        cases stopped
        cases silent
    | some loop =>
        simp only [owned] at stopped
        cases stopped
        exact ⟨loop, rfl, hub.chain_disown loop owned,
          alike_begin hub.disown hub (.awaitExit loop) hub.alike_disown⟩

theorem ordered_from (hub final : Hub) (timeline : Timeline)
    (ordered : hub.Ordered) (reached : hub.run timeline = some final) :
    final.Ordered :=
  run_induction
    (fun before now event step ordered reacted =>
      (before.ordered_react now event step ordered reacted).1)
    ordered reached

theorem stop_awaits (hub : Hub) (loop : LoopId) (next : Hub)
    (consistent : hub.Consistent)
    (alike : next.Alike (hub.begin (.awaitExit loop)).1) :
    next.Awaits hub.nextOperation loop where
  consistent := consistent_alike _ _ alike
    (hub.consistent_begin _ consistent (by intro _ _ _ walks; cases walks))
  named := by
    rw [alike.nextOperation]
    exact Nat.lt_succ_self _
  waits := by
    intro operation found
    have absent : hub.operation? hub.nextOperation = none := by
      cases present : hub.operation? hub.nextOperation with
      | none => rfl
      | some other =>
          have older := consistent.named _
            ((hub.mem_inFlight _).mpr ⟨other, present⟩)
          exact absurd older (Nat.lt_irrefl _)
    rw [alike_operation? _ _ alike, operation?_begin, absent, if_pos rfl]
      at found
    exact (Option.some.inj found).symm

/-- A stop that takes the owned loop returns on a hub none of whose loops is
inside a tick. -/
theorem joined_quiet (called : Hub) (now later : Instant)
    (begun step : Progress) (during : Timeline) (before : Hub)
    (ordered : called.Ordered) (consistent : called.Consistent)
    (stopped : called.react now .stop = some begun)
    (silent : begun.reply = none) (waited : begun.hub.run during = some before)
    (noStart : Timeline.StartsNothing during)
    (advanced :
      before.react later (.advance called.nextOperation) = some step) :
    step.hub.task = none ∧ step.hub.scheduledTicks = [] := by
  obtain ⟨loop, owned, released, alike⟩ := stop_owned called now begun stopped
    silent
  have begunOrdered := (called.ordered_react now .stop begun ordered stopped).1
  have beforeOrdered := ordered_from begun.hub before during begunOrdered waited
  have awaits : before.Awaits called.nextOperation loop :=
    run_induction (motive := fun hub => hub.Awaits called.nextOperation loop)
      (fun hub now event step awaits reacted =>
        hub.awaits_react now event step _ loop awaits reacted)
      (called.stop_awaits loop begun.hub consistent alike) waited
  -- The loop that was owned is the last one, and no start has come since.
  have last : called.chain.links.length = loop + 1 := by
    have remembered := ordered.linked.latest
    rw [(ordered.linked.owned loop owned).1] at remembered
    cases length : called.chain.links.length with
    | zero => rw [length] at remembered; cases remembered
    | succ count =>
        rw [length] at remembered
        rw [Option.some.inj remembered]
  have returned := before.moves_react later _ step beforeOrdered.timed
    (by intro inRuntime same; cases same) advanced
  have onward : Chain.Moves begun.hub.chain step.hub.chain :=
    (moves_run begun.hub before during begunOrdered.timed noStart waited).trans
      returned
  have free : begun.hub.task = none := congrArg Chain.task released
  have length : step.hub.chain.links.length = loop + 1 := by
    rw [Chain.length_moves _ _ onward, released, Chain.length_move _ _
      (.release called.chain loop owned), last]
  have isOver : step.hub.chain.Over loop :=
    Chain.over_moves _ _ loop
      ((before.loopFinished_iff loop).mp
        (before.awaits_over later _ loop step awaits advanced))
      returned
  have linked := (before.ordered_react later _ step beforeOrdered advanced).1
  exact ⟨Chain.task_moves _ _ onward free,
    step.hub.scheduledTicks_of_over loop linked.linked length isOver⟩

theorem stopReturns_run (called returned : Hub) (timeline : Timeline)
    (returns : called.StopReturns timeline returned) :
    called.run timeline = some returned := by
  cases returns with
  | atOnce now step stopped replied =>
      exact (run_singleton _ _ _ _).mpr ⟨step, stopped, rfl⟩
  | joined now later begun step during before stopped silent waited advanced
      replied =>
      refine (run_cons _ _ _ _ _).mpr ⟨begun, stopped, ?_⟩
      refine (run_append _ _ _ _).mpr ⟨before, waited, ?_⟩
      exact (run_singleton _ _ _ _).mpr ⟨step, advanced, rfl⟩

theorem stopReturns_quiet (called returned : Hub) (timeline : Timeline)
    (ordered : called.Ordered) (consistent : called.Consistent)
    (returns : called.StopReturns timeline returned)
    (noStart : Timeline.StartsNothing timeline) :
    returned.task = none ∧
      ((called.task = none ∧ returned = called) ∨
        (called.task ≠ none ∧ returned.scheduledTicks = [])) := by
  cases returns with
  | atOnce now step stopped replied =>
      obtain ⟨free, same⟩ := called.stop_unowned now step stopped replied
      rw [same]
      exact ⟨free, Or.inl ⟨free, rfl⟩⟩
  | joined now later begun step during before stopped silent waited advanced
      replied =>
      obtain ⟨loop, owned, _⟩ := called.stop_owned now begun stopped silent
      obtain ⟨free, quiet⟩ := called.joined_quiet now later begun step during
        before ordered consistent stopped silent waited
        (fun entry member => noStart entry (by simp [member])) advanced
      exact ⟨free, Or.inr ⟨by simp [owned], quiet⟩⟩

/-- A tick that a loop began is still under way when a stop returns just in case
the stop found no owned loop while a tick was under way, and no tick begins before
the next start. -/
theorem stop_returns_quiet (config : HubConfig)
    (valid : config.validate = .ok ()) (past timeline : Timeline)
    (called returned : Hub)
    (reached : (create config).run past = some called)
    (returns : called.StopReturns timeline returned)
    (noStart : Timeline.StartsNothing timeline) :
    ((∃ id ∈ (create config).ticksBegun (past ++ timeline),
        id ∈ returned.inFlight) ↔
      called.task = none ∧ ∃ id ∈ (create config).ticksBegun past,
        id ∈ called.inFlight) ∧
    ∀ after final, Timeline.StartsNothing after →
      returned.run after = some final →
        returned.ticksBegun after = [] ∧
          ∀ id ∈ (create config).ticksBegun (past ++ timeline),
            id ∈ final.inFlight → id ∈ returned.inFlight := by
  have wholeRun : (create config).run (past ++ timeline) = some returned :=
    (run_append _ _ _ _).mpr
      ⟨called, reached, stopReturns_run called returned timeline returns⟩
  have before : called.Begun ((create config).ticksBegun past) :=
    begun_run (create config) called past [] (begun_create config) reached
  have whole : returned.Begun
      ((create config).ticksBegun (past ++ timeline)) :=
    begun_run (create config) returned (past ++ timeline) [] (begun_create config)
      wholeRun
  have calledConsistent := consistent_run config past called reached
  have consistent := consistent_run config (past ++ timeline) returned wholeRun
  have ordered := ordered_run config valid past called reached
  obtain ⟨free, shape⟩ := stopReturns_quiet called returned timeline ordered
    calledConsistent returns noStart
  have inside : ∀ (hub : Hub) (begun : List OperationId), hub.Consistent →
      hub.Begun begun → ((∃ id ∈ begun, id ∈ hub.inFlight) ↔
        hub.scheduledTicks ≠ []) := by
    intro hub begun consistent history
    rw [Ne, List.eq_nil_iff_forall_not_mem]
    simp [scheduledTicks_begun hub begun consistent history]
  refine ⟨?_, ?_⟩
  · rw [inside returned _ consistent whole, inside called _ calledConsistent before]
    rcases shape with ⟨unowned, same⟩ | ⟨owned, quiet⟩
    · rw [same]
      simp [unowned]
    · simp [owned, quiet]
  · intro after final silent onward
    have started : returned.ticksBegun after = [] :=
      unowned_run returned final after
        (ordered_from called returned timeline ordered
          (stopReturns_run called returned timeline returns))
        free silent onward
    refine ⟨started, ?_⟩
    intro id begun current
    rcases (returned.names_run final after onward).2 id current with
      present | fresh
    · exact present
    · exact absurd (whole.named id begun) (Nat.not_lt.mpr fresh)

/-- A loop over one listener whose tick reads the source. -/
def scanningTimeline : Timeline :=
  [(⟨0⟩, .ask (.subscribe ⟨1, "first"⟩)), (⟨0⟩, .advance 0),
    (⟨0⟩, .start true), (⟨0⟩, .advanceLoop 0), (⟨0⟩, .advanceLoop 0),
    (⟨0⟩, .advanceLoop 0)]

/-- A second stop returns while the tick that the first one waits for still reads
the source. -/
theorem second_stop_returns_early :
    ∃ called returned,
      (create .standard).run (scanningTimeline ++ [(⟨1⟩, .stop)]) =
        some called ∧
      called.StopReturns [(⟨2⟩, .stop)] returned ∧
      1 ∈ (create .standard).ticksBegun
        (scanningTimeline ++ [(⟨1⟩, .stop), (⟨2⟩, .stop)]) ∧
      1 ∈ returned.inFlight ∧ returned.isScanning 1 = true :=
  ⟨_, _, rfl, .atOnce _ _ rfl rfl, by decide, by decide, by decide⟩

/-- A stop during that tick, which runs to its end before the stop returns. -/
def stoppedTimeline : Timeline :=
  [(⟨1⟩, .stop), (⟨2⟩, .answerScan 1 (.alarms [])), (⟨2⟩, .advanceLoop 0),
    (⟨3⟩, .answerCall 1 .accepted), (⟨3⟩, .advanceLoop 0),
    (⟨3⟩, .advanceLoop 0), (⟨3⟩, .advance 2)]

theorem stop_returns_quiet_scanning :
    HubConfig.standard.validate = .ok () ∧
      ∃ called returned,
        (create .standard).run scanningTimeline = some called ∧
        called.StopReturns stoppedTimeline returned ∧
        Timeline.StartsNothing stoppedTimeline ∧
        ¬ ∃ id ∈ (create .standard).ticksBegun
          (scanningTimeline ++ stoppedTimeline), id ∈ returned.inFlight := by
  have noStart : Timeline.StartsNothing stoppedTimeline := by
    simp [Timeline.StartsNothing, stoppedTimeline]
  refine ⟨rfl, _, _, rfl, .joined ⟨1⟩ ⟨3⟩ _ _
    [(⟨2⟩, .answerScan 1 (.alarms [])), (⟨2⟩, .advanceLoop 0),
      (⟨3⟩, .answerCall 1 .accepted), (⟨3⟩, .advanceLoop 0),
      (⟨3⟩, .advanceLoop 0)] _ rfl rfl rfl rfl rfl, noStart, ?_⟩
  intro underWay
  have unowned := ((stop_returns_quiet .standard rfl scanningTimeline
    stoppedTimeline _ _ rfl (.joined ⟨1⟩ ⟨3⟩ _ _
      [(⟨2⟩, .answerScan 1 (.alarms [])), (⟨2⟩, .advanceLoop 0),
        (⟨3⟩, .answerCall 1 .accepted), (⟨3⟩, .advanceLoop 0),
        (⟨3⟩, .advanceLoop 0)] _ rfl rfl rfl rfl rfl) noStart).1.mp underWay).1
  cases unowned

end Hub
end AlarmRelay
