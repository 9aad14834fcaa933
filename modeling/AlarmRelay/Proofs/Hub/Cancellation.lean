import AlarmRelay.Proofs.Hub.Blind
import AlarmRelay.Proofs.Hub.Fate
import AlarmRelay.Proofs.Hub.LoopOrder
import AlarmRelay.Proofs.Hub.Schedule
import AlarmRelay.Proofs.Hub.Ticks

/-!
# Cancellations are clean

A stop leaves no loop that nobody has asked to shut down, and neither does a hub
that was let go.  A loop that was asked begins no tick any more, wherever it was.
The tick that it is inside of goes on until it answers, and it calls, answers,
logs and measures what it would have without the cancellation.
-/

set_option autoImplicit false

namespace AlarmRelay.Hub

/-! ## Who is asked -/

/-- What letting a hub go comes to: without callers it owns no loop. -/
structure LetGo (hub : Hub) : Prop where
  released : hub.released = true → hub.closed = true ∧ hub.task = none
  abandoned : hub.closed = true → hub.callerOperations = [] → hub.task = none

theorem disown_task (hub : Hub) : hub.disown.task = none := by
  unfold disown
  split
  · assumption
  · rfl

theorem disown_closed (hub : Hub) : hub.disown.closed = hub.closed := by
  unfold disown
  split <;> rfl

theorem disown_released (hub : Hub) : hub.disown.released = hub.released := by
  unfold disown
  split <;> rfl

/-- Whatever a step does before it reclaims, the loop of a hub that was let go is
owned no more. -/
theorem letGo_reclaim (hub : Hub)
    (released : hub.released = true → hub.closed = true ∧ hub.task = none) :
    hub.reclaim.1.LetGo := by
  unfold reclaim
  split
  · rename_i due
    simp only [Bool.and_eq_true] at due
    have closed : hub.disown.closed = true := hub.disown_closed.trans due.1.1
    dsimp only
    split
    · exact ⟨fun _ => ⟨closed, hub.disown_task⟩, fun _ _ => hub.disown_task⟩
    · exact ⟨fun _ => ⟨closed, hub.disown_task⟩, fun _ _ => hub.disown_task⟩
  · rename_i early
    refine ⟨released, fun closed alone => ?_⟩
    dsimp only at closed alone ⊢
    cases gone : hub.released with
    | true => exact (released gone).2
    | false => simp [closed, gone, alone] at early

section

variable (hub next : Hub) (consistent : hub.Consistent) (letGo : hub.LetGo)
  (flow : Flow hub next)

include consistent letGo flow

theorem letGo_keeps (released : next.released = hub.released)
    (closed : next.closed = hub.closed) (task : next.task = hub.task)
    (stays : ∀ id ∈ hub.inFlight, id ∈ next.inFlight) : next.LetGo := by
  refine ⟨?_, ?_⟩
  · rw [released, closed, task]
    exact letGo.released
  · rw [closed, task]
    intro isClosed alone
    apply letGo.abandoned isClosed
    rw [List.eq_nil_iff_forall_not_mem] at alone ⊢
    intro id member
    obtain ⟨current, caller⟩ := (hub.mem_callerOperations id).mp member
    refine alone id ((next.mem_callerOperations id).mpr ⟨stays id current, ?_⟩)
    cases flow with
    | ebbs gone names inFlight ticks =>
        rw [ticks]
        exact fun inside => caller inside.1
    | grows names inFlight ticks =>
        rw [ticks]
        exact caller
    | ticks loop live names inFlight ticks =>
        rw [ticks]
        rintro (inside | new)
        · exact caller inside
        · exact Nat.lt_irrefl _ (new ▸ consistent.named id current)

theorem letGo_advance (id : OperationId) (step : Progress)
    (result : next = step.hub) (advanced : hub.advance id = some step) :
    next.LetGo := by
  subst result
  obtain ⟨operation, found⟩ := advance_operation hub id step advanced
  cases advance_cases hub id operation step found advanced with
  | answers _ registry reply _ answer result replied =>
      rw [result]
      exact letGo_reclaim _ letGo.released
  | scans _ held somebody result silent =>
      rw [result] at flow ⊢
      refine hub.letGo_keeps _ consistent letGo flow rfl rfl rfl ?_
      rw [inFlight_putOperation]
      exact fun _ here => here
  | walks _ next delivery _ held before after result silent =>
      rw [result] at flow ⊢
      refine hub.letGo_keeps _ consistent letGo flow rfl rfl rfl ?_
      rw [inFlight_putOperation]
      exact fun _ here => here

theorem letGo_answerScan (id : OperationId) (outcome : ScanOutcome)
    (result : next = (hub.answerScan id outcome).hub) : next.LetGo := by
  subst result
  unfold answerScan at flow ⊢
  split at flow
  · cases outcome with
    | alarms alarms =>
        refine hub.letGo_keeps _ consistent letGo flow rfl rfl rfl ?_
        have kept := hub.inFlight_putOperation id
          (.tick (.delivering alarms .awaitingLock))
        exact fun other here => kept.symm ▸ here
    | failed error => exact letGo_reclaim _ letGo.released
    | panicked payload => exact letGo_reclaim _ letGo.released
  · exact letGo

theorem letGo_advanceLoop (now : Instant) (id : Nat)
    (shape : LoopCase hub now id next) : next.LetGo := by
  cases shape with
  | enters cancelled previous found free timed =>
      exact hub.letGo_keeps _ consistent letGo flow rfl rfl rfl (fun _ here => here)
  | refuses cancelled previous found free untimed =>
      exact letGo_reclaim _ letGo.released
  | exits origin ticks found => exact letGo_reclaim _ letGo.released
  | begins origin ticks found due =>
      refine hub.letGo_keeps _ consistent letGo flow rfl rfl rfl ?_
      intro other current
      exact List.mem_map.mpr (by
        obtain ⟨entry, member, name⟩ := List.mem_map.mp current
        exact ⟨entry, List.mem_append_left _ member, name⟩)
  | ticks cancelled origin ticks operation step found stepped =>
      exact hub.letGo_advance _ consistent letGo flow operation step rfl stepped

end

theorem letGo_loseRuntime (hub : Hub) (letGo : hub.LetGo) :
    hub.loseRuntime.1.LetGo := by
  refine hub.loseRuntime_induction (motive := fun _ next => next.LetGo) letGo ?_
  intro count next _ letGo
  have shape := next.killLoop_cases count
  generalize (next.killLoop count).1 = killed at shape ⊢
  cases shape with
  | isOver ended => exact letGo
  | between running calm => exact letGo_reclaim _ letGo.released
  | inside running operation ticking =>
      have dropped : (next.forget operation).reclaim.1.LetGo :=
        letGo_reclaim _ letGo.released
      exact letGo_reclaim _ dropped.released

theorem letGo_open (hub next : Hub) (letGo : hub.LetGo)
    (opened : hub.closed = false) (released : next.released = hub.released)
    (closed : next.closed = hub.closed) : next.LetGo := by
  refine ⟨?_, ?_⟩
  · intro gone
    rw [released] at gone
    rw [(letGo.released gone).1] at opened
    cases opened
  · intro isClosed
    rw [closed, opened] at isClosed
    cases isClosed

/-- A caller that asks, starts or stops finds the hub open and leaves it so. -/
theorem open_react (hub : Hub) (now : Instant) (event : HubEvent) (step : Progress)
    (asks : (∃ request, event = .ask request) ∨
      (∃ inRuntime, event = .start inRuntime) ∨ event = .stop)
    (reacted : hub.react now event = some step) :
    hub.closed = false ∧ step.hub.released = hub.released ∧
      step.hub.closed = hub.closed := by
  rcases asks with ⟨request, rfl⟩ | ⟨inRuntime, rfl⟩ | rfl
  · simp only [react] at reacted
    split at reacted
    · cases reacted
    · rename_i opened
      cases reacted
      dsimp only
      rw [ask_hub]
      exact ⟨by simpa using opened, rfl, rfl⟩
  · simp only [react, start] at reacted
    split at reacted
    · cases reacted
    · rename_i opened
      refine ⟨by simpa using opened, ?_⟩
      cases running : hub.isRunning with
      | true =>
          simp only [running, if_true, Option.some.injEq] at reacted
          subst step
          exact ⟨rfl, rfl⟩
      | false =>
          cases inRuntime with
          | false =>
              simp only [running, Bool.false_eq_true, if_false, Bool.not_false,
                if_true, Option.some.injEq] at reacted
              subst step
              exact ⟨rfl, rfl⟩
          | true =>
              simp only [running, Bool.false_eq_true, if_false, Bool.not_true,
                Option.some.injEq] at reacted
              subst step
              exact ⟨rfl, rfl⟩
  · simp only [react, stop] at reacted
    split at reacted
    · cases reacted
    · rename_i opened
      refine ⟨by simpa using opened, ?_⟩
      cases owned : hub.task with
      | none =>
          simp only [owned] at reacted
          cases reacted
          exact ⟨rfl, rfl⟩
      | some loop =>
          simp only [owned] at reacted
          cases reacted
          exact ⟨hub.disown_released, hub.disown_closed⟩

theorem letGo_react (hub : Hub) (now : Instant) (event : HubEvent)
    (step : Progress) (consistent : hub.Consistent) (letGo : hub.LetGo)
    (reacted : hub.react now event = some step) : step.hub.LetGo := by
  have flow := hub.react_flow now event step reacted
  cases event with
  | ask request =>
      obtain ⟨opened, released, closed⟩ :=
        hub.open_react now _ step (Or.inl ⟨request, rfl⟩) reacted
      exact hub.letGo_open _ letGo opened released closed
  | start inRuntime =>
      obtain ⟨opened, released, closed⟩ :=
        hub.open_react now _ step (Or.inr (Or.inl ⟨inRuntime, rfl⟩)) reacted
      exact hub.letGo_open _ letGo opened released closed
  | stop =>
      obtain ⟨opened, released, closed⟩ :=
        hub.open_react now _ step (Or.inr (Or.inr rfl)) reacted
      exact hub.letGo_open _ letGo opened released closed
  | advance id =>
      exact hub.letGo_advance _ consistent letGo flow id step rfl reacted
  | answerCall id outcome =>
      simp only [react, answerCall] at reacted
      split at reacted
      · cases reacted
      · cases reacted
        cases found : hub.operation? id with
        | none => exact letGo
        | some operation =>
            simp only [found] at flow ⊢
            refine hub.letGo_keeps _ consistent letGo flow rfl rfl rfl ?_
            rw [inFlight_putOperation]
            exact fun _ here => here
  | answerScan id outcome =>
      simp only [react] at reacted
      split at reacted
      · cases reacted
        exact hub.letGo_answerScan _ consistent letGo flow id outcome rfl
      · cases reacted
  | abandon id =>
      simp only [react] at reacted
      split at reacted
      · cases reacted
        exact letGo_reclaim _ letGo.released
      · cases reacted
  | advanceLoop loop =>
      simp only [react] at reacted
      obtain ⟨result, advanced, rfl⟩ := Option.map_eq_some_iff.mp reacted
      exact hub.letGo_advanceLoop _ consistent letGo flow now loop
        (hub.advanceLoop_cases now loop result advanced)
  | loseRuntime =>
      simp only [react] at reacted
      cases reacted
      exact hub.letGo_loseRuntime letGo
  | close =>
      simp only [react] at reacted
      split at reacted
      · cases reacted
      · cases reacted
        exact letGo_reclaim _ fun gone => ⟨rfl, (letGo.released gone).2⟩

theorem letGo_run (config : HubConfig) (timeline : Timeline) (hub : Hub)
    (reached : (create config).run timeline = some hub) : hub.LetGo := by
  have both : hub.Consistent ∧ hub.LetGo :=
    run_induction (motive := fun next => next.Consistent ∧ next.LetGo)
      (by
        intro before now event step ⟨consistent, letGo⟩ reacted
        exact ⟨before.consistent_turn event step consistent
            (before.react_turn now event step reacted),
          before.letGo_react now event step consistent letGo reacted⟩)
      ⟨consistent_create config, ⟨(fun gone => by cases gone),
        (fun gone => by cases gone)⟩⟩ reached
  exact both.2

theorem stop_task (hub : Hub) (now : Instant) (step : Progress)
    (stopped : hub.react now .stop = some step) : step.hub.task = none := by
  simp only [react, stop] at stopped
  split at stopped
  · cases stopped
  · cases owned : hub.task with
    | none =>
        simp only [owned] at stopped
        cases stopped
        exact owned
    | some loop =>
        simp only [owned] at stopped
        cases stopped
        exact hub.disown_task

/-- A loop that is owned no more is over or asked to shut down. -/
theorem isLive_unowned (hub : Hub) (ordered : hub.Ordered) (free : hub.task = none)
    (loop : Nat) : hub.isLive loop = false := by
  refine Bool.eq_false_iff.mpr fun live => ?_
  have owned := ((hub.isLive_owned loop ordered.linked).mp live).2
  rw [free] at owned
  cases owned

/-! ## What a cancellation leaves alone -/

theorem cancelling_alike (hub : Hub) (now : Instant) (event : HubEvent)
    (step : Progress) (cancels : event = .stop ∨ event = .close)
    (consistent : hub.Consistent) (reacted : hub.react now event = some step) :
    step.hub.registry = hub.registry ∧
      step.hub.scheduledTicks = hub.scheduledTicks ∧
        ∀ tick ∈ hub.scheduledTicks,
          step.hub.operation? tick = hub.operation? tick := by
  have rests : step.hub.Alike hub → step.hub.registry = hub.registry ∧
      step.hub.scheduledTicks = hub.scheduledTicks ∧
        ∀ tick ∈ hub.scheduledTicks,
          step.hub.operation? tick = hub.operation? tick :=
    fun same => ⟨same.registry, same.ticks, fun tick _ =>
      step.hub.alike_operation? hub same tick⟩
  rcases cancels with rfl | rfl
  · cases hub.react_turn now .stop step reacted with
    | rests _ same idle unheard => exact rests same
    | stops loop owned same silent =>
        refine ⟨same.registry, same.ticks, ?_⟩
        intro tick inside
        obtain ⟨operation, found⟩ :=
          (hub.mem_inFlight tick).mp (consistent.ticking tick inside)
        rw [step.hub.alike_operation? _ same, operation?_begin, found]
        rfl
    | answers _ id operation registry reply drives => cases drives
    | scans _ id drives => cases drives
    | walks _ id operation next delivery drives => cases drives
  · cases hub.react_turn now .close step reacted with
    | rests _ same idle unheard => exact rests same
    | answers _ id operation registry reply drives => cases drives
    | scans _ id drives => cases drives
    | walks _ id operation next delivery drives => cases drives

/-! ## What becomes of the loop -/

theorem phaseStep_asked (hub : Hub) (now : Instant) (here later : SnapshotLoop)
    (asked : here.cancelled = true) (phases : PhaseStep hub now here later.phase) :
    SnapshotLoop.moment? (some here) (some later) ≠ some .began ∧
      (later.tick? = here.tick? ∨ later.tick? = none) := by
  obtain ⟨cancelled, phase⟩ := here
  obtain ⟨still, arrived⟩ := later
  generalize shape : arrived = next at phases
  cases phases with
  | stays =>
      subst shape
      refine ⟨?_, Or.inl rfl⟩
      intro lived
      cases arrived <;> cases lived
  | enters previous waits free =>
      subst shape
      cases waits
      exact ⟨(fun lived => by cases lived), Or.inr rfl⟩
  | begins origin ticks idle live due => exact nomatch asked.symm.trans live
  | ends origin ticks operation inside =>
      subst shape
      cases inside
      exact ⟨(fun lived => by cases lived), Or.inr rfl⟩
  | finishes result running =>
      subst shape
      refine ⟨?_, Or.inr rfl⟩
      intro lived
      cases phase <;> cases lived

/-- Once a loop was asked to shut down, it begins no tick on any run, whatever its
phase. -/
theorem beginsNothing_run (hub final : Hub) (loop : Nat) (here : SnapshotLoop)
    (timeline : Timeline) (found : hub.loops[loop]? = some here)
    (asked : here.cancelled = true) (reached : hub.run timeline = some final) :
    (hub.life loop timeline).instants .began = [] ∧
      ∀ tick, final.loopTick? loop = some tick →
        hub.loopTick? loop = some tick := by
  induction timeline generalizing hub here with
  | nil =>
      simp only [run, Option.some.injEq] at reached
      subst final
      exact ⟨rfl, fun _ inside => inside⟩
  | cons entry rest ih =>
      obtain ⟨now, event⟩ := entry
      obtain ⟨step, reacted, restRun⟩ := (run_cons _ _ _ _ _).mp reached
      obtain ⟨later, present, phases, still⟩ :=
        hub.react_evolves now event step reacted loop here found
      obtain ⟨quiet, tick⟩ := hub.phaseStep_asked now here later asked phases
      obtain ⟨onward, kept⟩ := ih step.hub later present (still asked) restRun
      refine ⟨?_, ?_⟩
      · simp only [life, reacted, Life.instants_append, onward, List.append_nil]
        rw [instants_moments, if_neg]
        rw [found, present]
        exact quiet
      · intro current inside
        have before := kept current inside
        rw [loopTick?_eq, present, Option.bind_some] at before
        rw [loopTick?_eq, found, Option.bind_some]
        rcases tick with same | none
        · rw [← same]
          exact before
        · rw [none] at before
          cases before

theorem tick_react (hub : Hub) (now : Instant) (event : HubEvent) (step : Progress)
    (tick : OperationId) (consistent : hub.Consistent)
    (inside : tick ∈ hub.scheduledTicks) (kept : event ≠ .loseRuntime)
    (reacted : hub.react now event = some step) :
    tick ∈ step.hub.scheduledTicks ∨
      ∃ reply, .returned tick reply ∈ hub.marks event step := by
  have current := consistent.ticking tick inside
  have answers : ∀ (id : OperationId) (registry : Registry) (reply : Reply),
      step.hub.Alike ({ hub with registry := registry }.forget id) →
      step.reply = some reply → tick ∈ step.hub.scheduledTicks ∨
        ∃ reply, .returned tick reply ∈ hub.marks event step := by
    intro id registry reply same replied
    by_cases named : tick = id
    · refine Or.inr ⟨reply, (hub.mem_marks event step _).mpr (Or.inr (Or.inl ?_))⟩
      refine ⟨tick, current, ?_, by rw [replied]; rfl⟩
      rw [alike_inFlight _ _ same, inFlight_forget, named]
      simp
    · left
      rw [same.ticks, scheduledTicks_forget]
      exact List.mem_filter.mpr ⟨inside, by simpa using named⟩
  cases hub.react_turn now event step reacted with
  | rests _ same idle unheard => exact Or.inl (same.ticks ▸ inside)
  | asks request same silent => exact Or.inl (same.ticks ▸ inside)
  | stops loop owned same silent => exact Or.inl (same.ticks ▸ inside)
  | ticks loop first last live registry operations names before after idle silent =>
      left
      rw [before] at inside
      rw [after]
      rcases List.mem_append.mp inside with early | late
      · exact List.mem_append_left _ early
      · exact List.mem_append_right _ (List.mem_cons_of_mem _ late)
  | answers _ id operation registry reply drives found answer same replied =>
      exact answers id registry reply same replied
  | fails id outcome message found same replied =>
      exact answers id hub.registry _ same replied
  | scans _ id drives found held somebody same silent =>
      exact Or.inl (same.ticks ▸ inside)
  | fetches id alarms found same silent => exact Or.inl (same.ticks ▸ inside)
  | walks _ id operation next delivery drives found held before after same silent =>
      exact Or.inl (same.ticks ▸ inside)
  | hears id operation next delivery listener rest report outcome found before after
      same silent =>
      exact Or.inl (same.ticks ▸ inside)
  | drops id caller same silent =>
      left
      rw [same.ticks, scheduledTicks_forget]
      refine List.mem_filter.mpr ⟨inside, ?_⟩
      have other : tick ≠ id := by
        rintro rfl
        exact ((hub.mem_callerOperations tick).mp caller).2 inside
      simpa using other
  | loses ids ticking same silent => exact absurd rfl kept

theorem tick_run (hub final : Hub) (timeline : Timeline) (tick : OperationId)
    (consistent : hub.Consistent) (inside : tick ∈ hub.scheduledTicks)
    (kept : ∀ entry ∈ timeline, entry.2 ≠ .loseRuntime)
    (reached : hub.run timeline = some final) :
    tick ∈ final.scheduledTicks ∨
      ∃ reply, .returned tick reply ∈ hub.journal timeline := by
  induction timeline generalizing hub with
  | nil =>
      simp only [run, Option.some.injEq] at reached
      subst final
      exact Or.inl inside
  | cons entry rest ih =>
      obtain ⟨now, event⟩ := entry
      obtain ⟨step, reacted, restRun⟩ := (run_cons _ _ _ _ _).mp reached
      rw [hub.journal_cons now event rest step reacted]
      rcases hub.tick_react now event step tick consistent inside
          (kept _ List.mem_cons_self) reacted with still | ⟨reply, answered⟩
      · have next := hub.consistent_turn event step consistent
          (hub.react_turn now event step reacted)
        rcases ih step.hub next still
            (fun entry member => kept entry (List.mem_cons_of_mem _ member)) restRun
          with later | ⟨reply, answered⟩
        · exact Or.inl later
        · exact Or.inr ⟨reply, List.mem_append_right _ answered⟩
      · exact Or.inr ⟨reply, List.mem_append_left _ answered⟩

/-- A loop takes whatever step its tick can take, asked to shut down or not. -/
theorem tick_advances (hub : Hub) (now : Instant) (loop : Nat) (tick : OperationId)
    (step : Progress) (inside : hub.loopTick? loop = some tick)
    (stepped : hub.advance tick = some step) :
    hub.react now (.advanceLoop loop) = some step := by
  have replied : hub.loopReply? loop = step.reply := by
    simp [loopReply?, inside, stepped]
  rw [loopTick?_eq] at inside
  obtain ⟨⟨cancelled, phase⟩, found, ticking⟩ := Option.bind_eq_some_iff.mp inside
  cases phase with
  | ticking origin ticks operation =>
      cases ticking
      simp only [react, advanceLoop, found, stepped, Option.map_some, replied]
  | _ => cases ticking

/-! ## Every cancellation -/

/-- Cancellations of loops are clean at a hub. -/
structure CancelsCleanly (hub : Hub) : Prop where
  /-- A stop leaves no loop that nobody has asked to shut down. -/
  stops : ∀ now step, hub.react now .stop = some step →
    ∀ loop, step.hub.isLive loop = false
  /-- Nor does a hub that was let go and has no callers any more. -/
  drops : hub.closed = true → hub.callerOperations = [] →
    ∀ loop, hub.isLive loop = false
  /-- Neither touches the registry or the ticks of loops. -/
  untouched : ∀ now event step, event = .stop ∨ event = .close →
    hub.react now event = some step →
      step.hub.registry = hub.registry ∧
        step.hub.scheduledTicks = hub.scheduledTicks ∧
          ∀ tick ∈ hub.scheduledTicks,
            step.hub.operation? tick = hub.operation? tick
  /-- A loop that was asked begins no tick on any run. -/
  beginsNothing : ∀ (loop : Nat) (here : SnapshotLoop),
    hub.loops[loop]? = some here → here.cancelled = true →
      ∀ timeline final, hub.run timeline = some final →
        (hub.life loop timeline).instants .began = [] ∧
          ∀ tick, final.loopTick? loop = some tick →
            hub.loopTick? loop = some tick
  /-- A tick in progress goes on until it answers, unless the runtime is lost. -/
  notCutShort : ∀ tick ∈ hub.scheduledTicks, ∀ timeline final,
    (∀ entry ∈ timeline, entry.2 ≠ .loseRuntime) →
      hub.run timeline = some final →
        tick ∈ final.scheduledTicks ∨
          ∃ reply, .returned tick reply ∈ hub.journal timeline
  /-- Its loop takes every step that it can take. -/
  goesOn : ∀ (now : Instant) (loop : Nat) (tick : OperationId) (step : Progress),
    hub.loopTick? loop = some tick → hub.advance tick = some step →
      hub.react now (.advanceLoop loop) = some step
  /-- Up to its end everything happens as it does with the cancellation taken back,
  and as it does with the cancellation made. -/
  unaffected : ∀ (loop : Nat) (tick : OperationId) (asked : Bool)
    (timeline : Timeline), hub.staysInside loop tick timeline = true →
      (∃ later, (hub.withAsked loop asked).run timeline =
        (hub.run timeline).map fun final => final.withAsked loop later) ∧
      (hub.withAsked loop asked).journal timeline = hub.journal timeline ∧
      (hub.withAsked loop asked).signals timeline = hub.signals timeline

/-- On every run, wherever a loop is when it is asked to shut down, it begins no tick
any more, and the tick that it is inside of is not affected. -/
theorem cancellations_are_clean (config : HubConfig)
    (valid : config.validate = .ok ()) (past : Timeline) (hub : Hub)
    (reached : (create config).run past = some hub) : hub.CancelsCleanly := by
  have ordered := ordered_run config valid past hub reached
  have consistent := consistent_run config past hub reached
  have letGo := letGo_run config past hub reached
  refine ⟨?_, ?_, ?_, ?_, ?_, hub.tick_advances, ?_⟩
  · intro now step stopped loop
    exact step.hub.isLive_unowned
      (hub.ordered_react now .stop step ordered stopped).1
      (hub.stop_task now step stopped) loop
  · intro closed alone loop
    exact hub.isLive_unowned ordered (letGo.abandoned closed alone) loop
  · intro now event step cancels reacted
    exact hub.cancelling_alike now event step cancels consistent reacted
  · intro loop here found asked timeline final onward
    exact hub.beginsNothing_run final loop here timeline found asked onward
  · intro tick inside timeline final kept onward
    exact hub.tick_run final timeline tick consistent inside kept onward
  · intro loop tick asked timeline inside
    exact hub.withAsked_run loop asked tick timeline inside

/-- A loop that is asked to shut down inside of a tick, with two more overdue. -/
def overdueTimeline : Timeline :=
  [(.ofMillis 0, .ask (.subscribe ⟨1, "pager"⟩)), (.ofMillis 0, .advance 0),
    (.ofMillis 0, .start true), (.ofMillis 0, .advanceLoop 0),
    (.ofMillis 0, .advanceLoop 0), (.ofMillis 0, .advanceLoop 0),
    (.ofMillis 12000, .stop)]

/-- Its tick goes on, and then the loop is over. -/
def finishingTimeline : Timeline :=
  [(.ofMillis 12000, .answerScan 1 (.alarms [])), (.ofMillis 12000, .advanceLoop 0),
    (.ofMillis 12000, .answerCall 1 (.panicked .other)),
    (.ofMillis 12000, .advanceLoop 0)]

theorem cancellations_are_clean_overdue :
    HubConfig.standard.validate = .ok () ∧
      ∃ hub, (create .standard).run overdueTimeline = some hub ∧
        hub.isLive 0 = false ∧ hub.scheduledTicks = [1] ∧
        hub.staysInside 0 1 finishingTimeline = true ∧
        .returned 1 (.tick (.delivered 0 ⟨1, 1⟩)) ∈
          hub.journal finishingTimeline ∧
        hub.CancelsCleanly :=
  ⟨rfl, _, rfl, by decide, by decide, by decide, by decide,
    cancellations_are_clean .standard rfl overdueTimeline _ rfl⟩

end AlarmRelay.Hub
