import AlarmRelay.Proofs.Hub.Life

/-!
# Loops keep their schedule

On a clock that keeps up with a loop, the loop enters its schedule when it is
spawned or when the loop before it is over, whichever comes later, and begins every
tick when it is due or when the tick before it has ended.  So no tick is left out,
and however late the ticks have become, those that are on time again begin when
they are due.
-/

set_option autoImplicit false

namespace AlarmRelay.Hub

/-! ## Whole runs -/

theorem tracks_run (hub final : Hub) (clock last : Instant) (loop : Nat)
    (lives : Nat → Life) (timeline : Timeline) (ordered : hub.Ordered)
    (tracks : Tracks hub clock loop lives)
    (punctual : hub.isPunctual loop clock last timeline = true)
    (reached : hub.run timeline = some final) :
    Tracks final last loop (fun id => lives id ++ hub.life id timeline) := by
  induction timeline generalizing hub clock lives with
  | nil =>
      simp only [run, Option.some.injEq] at reached
      subst final
      simpa [life] using hub.tracks_pass clock last loop lives punctual tracks
  | cons entry rest ih =>
      obtain ⟨now, event⟩ := entry
      obtain ⟨step, reacted, restRun⟩ := (run_cons _ _ _ _ _).mp reached
      simp only [isPunctual, reacted, Bool.and_eq_true] at punctual
      have passed := hub.tracks_pass clock now loop lives punctual.1 tracks
      have next := hub.tracks_react now loop lives event step ordered passed reacted
      have stays := (hub.ordered_react now event step ordered reacted).1
      have all := ih step.hub now _ stays next punctual.2 restRun
      simpa only [livesOn, life, reacted, List.append_assoc] using all

theorem tracks_create (config : HubConfig) (clock : Instant) (loop : Nat) :
    Tracks (create config) clock loop (fun _ => []) where
  stands := .unborn rfl
  ends _ := ⟨fun _ => rfl, fun _ found => nomatch found⟩

theorem spawned_start (hub final : Hub) (loop : Nat) (timeline : Timeline)
    (spawned : Instant) (ordered : hub.Ordered)
    (reached : hub.run timeline = some final)
    (known : spawned ∈ (hub.life loop timeline).instants .spawned) :
    ∃ first rest before, timeline = first ++ (spawned, .start true) :: rest ∧
      hub.run first = some before ∧ before.loops.length = loop := by
  induction timeline generalizing hub with
  | nil => cases known
  | cons entry rest ih =>
      obtain ⟨now, event⟩ := entry
      obtain ⟨step, reacted, restRun⟩ := (run_cons _ _ _ _ _).mp reached
      simp only [life, reacted, Life.instants_append, List.mem_append] at known
      rcases known with here | later
      · rw [instants_moments] at here
        split at here
        · rename_i lived
          cases List.mem_singleton.mp here
          obtain ⟨absent, fresh, present⟩ := moment_spawned _ _ lived
          obtain ⟨starts, length, _⟩ := hub.react_spawned spawned event step loop
            fresh ordered reacted absent present
          exact ⟨[], rest, hub, by rw [starts]; rfl, rfl, length⟩
        · cases here
      · obtain ⟨first, others, before, split, run, length⟩ :=
          ih step.hub (hub.ordered_react now event step ordered reacted).1 restRun
            later
        exact ⟨(now, event) :: first, others, before, by rw [split]; rfl,
          (run_cons _ _ _ _ _).mpr ⟨step, reacted, run⟩, length⟩

/-- Two entries of one loop would be at one instant. -/
theorem entersAt_unique (lives : Nat → Life) (loop : Nat) (first second : Instant)
    (one : EntersAt lives loop first) (other : EntersAt lives loop second) :
    first = second := by
  obtain ⟨spawned, once, rest⟩ := one
  obtain ⟨spawned', once', rest'⟩ := other
  rw [once] at once'
  cases once'
  cases before : LoopId.previous? loop with
  | none =>
      simp only [before] at rest rest'
      rw [rest, rest']
  | some previous =>
      simp only [before] at rest rest'
      obtain ⟨ended, ceased, same⟩ := rest
      obtain ⟨ended', ceased', same'⟩ := rest'
      rw [ceased] at ceased'
      cases ceased'
      rw [same, same']

/-- The ticks of a loop that entered its schedule at `origin` keep to it. -/
structure KeepsTime (origin : Instant) (interval : Duration) (life : Life) :
    Prop where
  /-- Every tick begins when it is due, or when the tick before it ends if that is
  later. -/
  scheduled : ∀ tick begun, (life.instants .began)[tick]? = some begun →
    begun = SnapshotLoop.scheduledAt origin interval life.tickLength tick
  /-- A tick that has ended began before, so its length is what it took. -/
  lasts : ∀ (tick : Nat) (ended : Instant),
    (life.instants .ended)[tick]? = some ended →
      ∃ begun, (life.instants .began)[tick]? = some begun ∧
        ended = begun + life.tickLength tick
  /-- No tick begins before the one before it has ended. -/
  apart : ∀ (tick : Nat) (begun : Instant),
    (life.instants .began)[tick + 1]? = some begun →
      ∃ ended, (life.instants .ended)[tick]? = some ended ∧ ended ≤ begun
  /-- An overdue tick follows at once. -/
  catchesUp : ∀ (tick : Nat) (begun ended : Instant),
    (life.instants .began)[tick + 1]? = some begun →
    (life.instants .ended)[tick]? = some ended →
    SnapshotLoop.dueAt origin interval (tick + 1) ≤ ended → begun = ended
  /-- After a tick that ended in time, the next one begins when it is due. -/
  resumes : ∀ (tick : Nat) (begun ended : Instant),
    (life.instants .began)[tick + 1]? = some begun →
    (life.instants .ended)[tick]? = some ended →
    ended ≤ SnapshotLoop.dueAt origin interval (tick + 1) →
      begun = SnapshotLoop.dueAt origin interval (tick + 1)

theorem keepsTime_paced (origin : Instant) (interval : Duration) (life : Life)
    (paced : Paced origin interval (life.instants .began)
      (life.instants .ended)) : KeepsTime origin interval life := by
  have next : ∀ (tick : Nat) (begun : Instant),
      (life.instants .began)[tick + 1]? = some begun →
        ∃ ended, (life.instants .ended)[tick]? = some ended ∧
          begun = max (SnapshotLoop.dueAt origin interval (tick + 1)) ended := by
    intro tick begun began
    obtain ⟨within, timely⟩ := paced.timely _ begun began
    have ceased : (life.instants .ended)[tick]? =
        some (life.instants .ended)[tick] := List.getElem?_eq_getElem within
    exact ⟨_, ceased, by simpa [beginsAt, List.getD, ceased] using timely⟩
  refine ⟨?_, ?_, ?_, ?_, ?_⟩
  · intro tick begun began
    obtain ⟨within, timely⟩ := paced.timely tick begun began
    rw [timely]
    exact paced_scheduled origin interval life paced tick within
  · intro tick ended ceased
    obtain ⟨begun, began, ordered⟩ := paced.begun tick ended ceased
    refine ⟨begun, began, ?_⟩
    have length : life.tickLength tick = Duration.since begun ended := by
      simp [Life.tickLength, List.getD, began, ceased]
    rw [length, Duration.add_since _ _ ordered]
  · intro tick begun began
    obtain ⟨ended, ceased, same⟩ := next tick begun began
    exact ⟨ended, ceased, same ▸ Duration.le_max_right _ _⟩
  · intro tick begun ended began ceased overdue
    obtain ⟨_, known, same⟩ := next tick begun began
    rw [ceased] at known
    cases known
    rw [same, Duration.max_of_le _ _ overdue]
  · intro tick begun ended began ceased early
    obtain ⟨_, known, same⟩ := next tick begun began
    rw [ceased] at known
    cases known
    rw [same, Duration.max_of_ge _ _ early]

/-- A loop has kept its schedule on a run of a hub that lasted until some
instant. -/
structure OnSchedule (hub final : Hub) (timeline : Timeline) (last : Instant)
    (loop : Nat) : Prop where
  /-- It was spawned by a start. -/
  started : ∀ spawned ∈ (hub.life loop timeline).instants .spawned,
    ∃ first rest before, timeline = first ++ (spawned, .start true) :: rest ∧
      hub.run first = some before ∧ before.loops.length = loop
  /-- If it has entered its schedule, it did so once it was spawned and the loop
  before it was over, and its ticks keep time since. -/
  entered : ∀ origin ∈ (hub.life loop timeline).instants .entered,
    EnteredAt (fun id => hub.life id timeline) loop origin ∧
      KeepsTime origin hub.interval (hub.life loop timeline)
  /-- It is not kept waiting. -/
  prompt : ∀ origin, EntersAt (fun id => hub.life id timeline) loop origin →
    origin < last → final.loopFinished loop = false →
      (hub.life loop timeline).instants .entered = [origin]
  /-- As long as nobody asks it to shut down, it leaves no tick out. -/
  complete : ∀ origin tick,
    (hub.life loop timeline).instants .entered = [origin] →
    final.isLive loop = true →
    tick ≤ ((hub.life loop timeline).instants .ended).length →
    SnapshotLoop.scheduledAt origin hub.interval
      (hub.life loop timeline).tickLength tick < last →
    tick < ((hub.life loop timeline).instants .began).length

/-- A loop that nobody asked to shut down has begun all ticks that were to begin
by now. -/
theorem tracks_complete (hub : Hub) (now : Instant) (loop : Nat)
    (lives : Nat → Life) (tracks : Tracks hub now loop lives) (origin : Instant)
    (tick : Nat) (once : (lives loop).instants .entered = [origin])
    (live : hub.isLive loop = true)
    (known : tick ≤ ((lives loop).instants .ended).length)
    (sooner : SnapshotLoop.scheduledAt origin hub.interval
      (lives loop).tickLength tick < now) :
    tick < ((lives loop).instants .began).length := by
  have stands := tracks.stands
  generalize state : hub.loops[loop]? = found at stands
  cases stands with
  | unborn nothing =>
      rw [nothing] at once
      cases once
  | waits cancelled spawned born past free =>
      rw [born] at once
      cases once
  | idle cancelled other entered paced level past timely =>
      rw [level]
      refine Nat.lt_of_le_of_ne known fun same => ?_
      have cancelled : cancelled = false := by
        simpa [isLive, state, SnapshotLoop.isLive, SnapshotLoop.isFinished] using live
      have instant : origin = other := by
        have both := once.symm.trans entered.once
        cases both
        rfl
      subst instant
      have late := timely cancelled
      rw [← same, paced_scheduled _ _ _ paced tick known] at late
      exact Nat.not_lt_of_le late sooner
  | ticking cancelled other operation entered paced ahead begun past =>
      rw [ahead]
      exact Nat.lt_succ_of_le known
  | stillborn cancelled result never =>
      rw [never] at once
      cases once
  | isOver cancelled result other entered paced =>
      simp [isLive, state, SnapshotLoop.isLive, SnapshotLoop.isFinished] at live

theorem tracks_prompt (hub : Hub) (now : Instant) (loop : Nat)
    (lives : Nat → Life) (tracks : Tracks hub now loop lives) (origin : Instant)
    (meant : EntersAt lives loop origin) (sooner : origin < now)
    (underWay : hub.loopFinished loop = false) :
    (lives loop).instants .entered = [origin] := by
  have stands := tracks.stands
  generalize state : hub.loops[loop]? = found at stands
  cases stands with
  | unborn nothing =>
      obtain ⟨spawned, once, _⟩ := meant
      rw [nothing] at once
      cases once
  | waits cancelled spawned born past free =>
      have ceased : ∀ previous, LoopId.previous? loop = some previous →
          hub.loopFinished previous = true := by
        intro previous before
        obtain ⟨_, _, rest⟩ := meant
        simp only [before] at rest
        obtain ⟨ended, isOver, _⟩ := rest
        refine Classical.byContradiction fun going => ?_
        rw [(tracks.ends previous).underWay] at isOver
        · cases isOver
        · intro here known
          simpa [loopFinished, known] using going
      rw [entersAt_unique lives loop origin now meant (free ceased)] at sooner
      exact absurd sooner (Nat.lt_irrefl _)
  | idle cancelled other entered paced level past timely =>
      rw [entersAt_unique lives loop origin other meant entered.meant]
      exact entered.once
  | ticking cancelled other operation entered paced ahead begun past =>
      rw [entersAt_unique lives loop origin other meant entered.meant]
      exact entered.once
  | stillborn cancelled result never =>
      rw [loopFinished, state] at underWay
      cases underWay
  | isOver cancelled result other entered paced =>
      rw [loopFinished, state] at underWay
      cases underWay

theorem tracks_entered (hub : Hub) (now : Instant) (loop : Nat)
    (lives : Nat → Life) (tracks : Tracks hub now loop lives) (origin : Instant)
    (known : origin ∈ (lives loop).instants .entered) :
    EnteredAt lives loop origin ∧
      KeepsTime origin hub.interval (lives loop) := by
  have told : ∀ other, EnteredAt lives loop other →
      Paced other hub.interval ((lives loop).instants .began)
        ((lives loop).instants .ended) →
      EnteredAt lives loop origin ∧
        KeepsTime origin hub.interval (lives loop) := by
    intro other entered paced
    rw [entered.once] at known
    cases List.mem_singleton.mp known
    exact ⟨entered, keepsTime_paced _ _ _ paced⟩
  have stands := tracks.stands
  generalize hub.loops[loop]? = found at stands
  cases stands with
  | unborn nothing =>
      rw [nothing] at known
      cases known
  | waits cancelled spawned born past free =>
      rw [born] at known
      cases known
  | idle cancelled other entered paced level past timely =>
      exact told other entered paced
  | ticking cancelled other operation entered paced ahead begun past =>
      exact told other entered paced
  | stillborn cancelled result never =>
      rw [never] at known
      cases known
  | isOver cancelled result other entered paced => exact told other entered paced

theorem interval_run (hub final : Hub) (timeline : Timeline) (ordered : hub.Ordered)
    (reached : hub.run timeline = some final) : final.interval = hub.interval := by
  have both : final.Ordered ∧ final.interval = hub.interval :=
    run_induction
      (motive := fun next => next.Ordered ∧ next.interval = hub.interval)
      (by
        intro before now event step ⟨ordered, same⟩ reacted
        refine ⟨(before.ordered_react now event step ordered reacted).1, ?_⟩
        rw [before.interval_react now event step ordered.timed reacted, same])
      ⟨ordered, rfl⟩ reached
  exact both.2

/-- A loop that is restarted during a slow tick of the one before.  Its own first
scan fails after three intervals, and the next ones end at once. -/
def overrunTimeline : Timeline :=
  [(.ofMillis 0, .ask (.subscribe ⟨1, "pager"⟩)), (.ofMillis 0, .advance 0),
    (.ofMillis 0, .start true), (.ofMillis 0, .advanceLoop 0),
    (.ofMillis 0, .advanceLoop 0), (.ofMillis 1000, .stop),
    (.ofMillis 2000, .start true), (.ofMillis 9000, .advanceLoop 0),
    (.ofMillis 12000, .answerScan 1 (.panicked .other)),
    (.ofMillis 12000, .advanceLoop 0), (.ofMillis 12000, .advanceLoop 1),
    (.ofMillis 12000, .advanceLoop 1), (.ofMillis 12000, .advanceLoop 1),
    (.ofMillis 25000, .answerScan 3 (.failed (.query "disk"))),
    (.ofMillis 25000, .advanceLoop 1), (.ofMillis 25000, .advanceLoop 1),
    (.ofMillis 25000, .answerScan 4 (.alarms [])),
    (.ofMillis 25000, .advanceLoop 1),
    (.ofMillis 25000, .answerCall 4 (.panicked .other)),
    (.ofMillis 25000, .advanceLoop 1), (.ofMillis 25000, .advanceLoop 1),
    (.ofMillis 25000, .advanceLoop 1),
    (.ofMillis 26000, .answerScan 5 (.failed (.query "disk"))),
    (.ofMillis 27000, .advanceLoop 1)]

end AlarmRelay.Hub
