import AlarmRelay.Proofs.Hub.Beginnings
import AlarmRelay.Proofs.Hub.Schedule
import AlarmRelay.Proofs.Hub.TickRecord

/-!
# Newcomers are covered

Ticks that end in time begin exactly when they are due.  So whenever a listener
joins, the loop begins a tick within one interval, and as long as the listener
stays, that tick finds it at both of its looks at the registry and hands it what the
source gave, wherever the listener fell between the ticks of the loop.
-/

set_option autoImplicit false

namespace AlarmRelay

/-! ## Ticks that end in time -/

section

variable {origin last : Instant} {interval : Duration} {life : Life}
  (keeps : Hub.KeepsTime origin interval life)
  (brisk : life.IsBrisk origin interval last)

include brisk

theorem brisk_ended (tick : Nat) (began : tick < (life.instants .began).length)
    (late : SnapshotLoop.dueAt origin interval (tick + 1) < last) :
    tick < (life.instants .ended).length := by
  refine Nat.lt_of_not_le fun beyond => ?_
  have timely := brisk tick began
  rw [List.getD_eq_getElem?_getD, List.getElem?_eq_none beyond,
    Option.getD_none] at timely
  exact Nat.not_lt_of_le timely late

include keeps

theorem brisk_scheduled (tick : Nat)
    (within : tick ≤ (life.instants .ended).length) :
    SnapshotLoop.scheduledAt origin interval life.tickLength tick =
      SnapshotLoop.dueAt origin interval tick := by
  cases tick with
  | zero => exact (dueAt_zero origin interval).symm
  | succ tick =>
      have ended := List.getElem?_eq_getElem within
      obtain ⟨begun, began, length⟩ := keeps.lasts tick _ ended
      have timely := brisk tick (List.getElem?_eq_some_iff.mp began).1
      rw [List.getD_eq_getElem?_getD, ended, Option.getD_some, length,
        keeps.scheduled tick begun began] at timely
      exact Duration.max_of_ge _ _ timely

/-- If no tick goes on beyond the instant at which the next one is due, every tick
begins when it is due. -/
theorem brisk_began (tick : Nat) (begun : Instant)
    (began : (life.instants .began)[tick]? = some begun) :
    begun = SnapshotLoop.dueAt origin interval tick := by
  rw [keeps.scheduled tick begun began]
  apply brisk_scheduled keeps brisk
  cases tick with
  | zero => exact Nat.zero_le _
  | succ tick =>
      obtain ⟨ended, ceased, _⟩ := keeps.apart tick begun began
      exact (List.getElem?_eq_some_iff.mp ceased).1

/-- The tick after those that began by some instant is due within one interval of
it. -/
theorem brisk_due (count : Nat) (joined : Instant) (after : origin ≤ joined)
    (early : ∀ (tick : Nat) (begun : Instant), tick < count →
      (life.instants .began)[tick]? = some begun → begun ≤ joined)
    (known : count ≤ (life.instants .began).length) :
    SnapshotLoop.dueAt origin interval count ≤ joined + interval := by
  cases count with
  | zero =>
      rw [dueAt_zero]
      exact Duration.le_trans _ _ _ after (Nat.le_add_right _ _)
  | succ count =>
      have began := List.getElem?_eq_getElem known
      have timely := early count _ (Nat.lt_succ_self _) began
      rw [brisk_began keeps brisk count _ began] at timely
      rw [dueAt_succ]
      exact Nat.add_le_add_right timely _

end

/-! ## What such a tick does for a listener -/

theorem ReadMark.answers_succeed (id : OperationId) (log : List ReadMark)
    (sound : ∀ mark ∈ log, mark.succeeds = true) (scan : ScanOutcome)
    (member : scan ∈ answers id log) : scan.failure? = none := by
  simp only [answers, List.mem_filterMap] at member
  obtain ⟨mark, present, shown⟩ := member
  cases mark with
  | began other => cases shown
  | ended other outcome =>
      simp only [Option.ite_none_right_eq_some, Option.some.injEq] at shown
      obtain ⟨_, rfl⟩ := shown
      simpa [succeeds] using sound _ present

/-- A tick whose source did not fail has handed what it got to a listener that was
there whenever it looked. -/
theorem TickRecord.yields_handed (record : TickRecord) (outcome : TickOutcome)
    (listener : Listener) (yields : record.Yields outcome)
    (sees : ∀ members ∈ record.admissions, listener ∈ members)
    (sound : ∀ scan ∈ record.answers, scan.failure? = none) :
    ∃ alarms report, outcome = .delivered alarms.length report ∧
      record.answers = [.alarms alarms] ∧
        (listener, .snapshot alarms) ∈ record.calls := by
  cases yields with
  | skipped => cases sees [] List.mem_cons_self
  | failed first scan message somebody fault =>
      rw [sound scan List.mem_cons_self] at fault
      cases fault
  | delivered first second alarms outcomes somebody heard =>
      refine ⟨alarms, _, rfl, rfl, ?_⟩
      exact List.mem_map_of_mem
        (sees second (List.mem_cons_of_mem _ List.mem_cons_self))

namespace Hub

/-! ## Listeners that stay -/

theorem keepsRegistered_here (hub : Hub) (listener : Listener)
    (timeline : Timeline)
    (stays : hub.keepsRegistered listener timeline = true) :
    listener ∈ hub.registry.listeners := by
  cases timeline with
  | nil => exact List.contains_iff_mem.mp stays
  | cons entry rest =>
      simp only [keepsRegistered, Bool.and_eq_true] at stays
      exact List.contains_iff_mem.mp stays.1

theorem keepsRegistered_append (hub middle : Hub) (listener : Listener)
    (first second : Timeline) (reached : hub.run first = some middle)
    (stays : hub.keepsRegistered listener (first ++ second) = true) :
    middle.keepsRegistered listener second = true := by
  induction first generalizing hub with
  | nil =>
      simp only [run, Option.some.injEq] at reached
      subst middle
      exact stays
  | cons entry rest ih =>
      obtain ⟨now, event⟩ := entry
      obtain ⟨step, reacted, restRun⟩ := (run_cons _ _ _ _ _).mp reached
      simp only [List.cons_append, keepsRegistered, reacted,
        Bool.and_eq_true] at stays
      exact ih step.hub restRun stays.2

/-- Whoever is granted the shared side finds a listener that stays. -/
theorem admissions_registered (hub : Hub) (listener : Listener)
    (timeline : Timeline) (id : OperationId) (members : List Listener)
    (stays : hub.keepsRegistered listener timeline = true)
    (granted : members ∈ Mark.admissions id (hub.journal timeline)) :
    listener ∈ members := by
  induction timeline generalizing hub with
  | nil => cases granted
  | cons entry rest ih =>
      obtain ⟨now, event⟩ := entry
      cases reacted : hub.react now event with
      | none => simp [journal, observe, reacted, Mark.admissions] at granted
      | some step =>
          simp only [keepsRegistered, reacted, Bool.and_eq_true] at stays
          rw [hub.journal_cons now event rest step reacted, Mark.admissions_append]
            at granted
          rcases List.mem_append.mp granted with here | later
          · rw [((hub.marks_admissions event step id members).mp here).2.2]
            exact step.hub.keepsRegistered_here listener rest stays.2
          · exact ih step.hub stays.2 later

/-- The event in which a listener joined to stay. -/
inductive Arrival (hub final : Hub) (listener : Listener) (joined : Instant) :
    Timeline → Prop where
  | found (first last : Timeline) (event : HubEvent) (before : Hub)
      (step : Progress) (firstRun : hub.run first = some before)
      (reacted : before.react joined event = some step)
      (lastRun : step.hub.run last = some final)
      (stays : step.hub.keepsRegistered listener last = true) :
      Arrival hub final listener joined (first ++ (joined, event) :: last)

theorem arrivals_split (hub final : Hub) (listener : Listener)
    (joined : Instant) (timeline : Timeline)
    (reached : hub.run timeline = some final)
    (arrived : joined ∈ hub.arrivals listener timeline) :
    Arrival hub final listener joined timeline := by
  induction timeline generalizing hub with
  | nil => cases arrived
  | cons entry rest ih =>
      obtain ⟨now, event⟩ := entry
      obtain ⟨step, reacted, restRun⟩ := (run_cons _ _ _ _ _).mp reached
      simp only [arrivals, reacted, List.mem_append] at arrived
      rcases arrived with here | later
      · split at here
        · rename_i joins
          cases List.mem_singleton.mp here
          exact .found [] rest event hub step rfl reacted restRun
            (Bool.and_eq_true_iff.mp joins).2
        · cases here
      · cases ih step.hub restRun later with
        | found first last act before next firstRun acted lastRun stays =>
            exact .found ((now, event) :: first) last act before next
              ((run_cons _ _ _ _ _).mpr ⟨step, reacted, firstRun⟩) acted lastRun
              stays

/-! ## Where a loop stands -/

section

variable (hub : Hub) (now : Instant) (loop : Nat) (lives : Nat → Life)
  (tracks : Tracks hub now loop lives)

include tracks

/-- A loop that is not over has begun its ticks by now. -/
theorem tracks_begun
    (going : ∀ here, hub.loops[loop]? = some here → here.isFinished = false)
    (begun : Instant) (known : begun ∈ (lives loop).instants .began) :
    begun ≤ now := by
  have stands := tracks.stands
  generalize state : hub.loops[loop]? = found at stands going
  cases stands with
  | unborn nothing =>
      rw [nothing] at known
      cases known
  | waits cancelled spawned born past free =>
      rw [born] at known
      cases known
  | idle cancelled origin entered paced level past timely =>
      exact paced_past _ _ _ _ now paced level past begun known
  | ticking cancelled origin operation entered paced ahead early past =>
      exact early begun known
  | stillborn cancelled result never => cases going _ rfl
  | isOver cancelled result origin entered paced => cases going _ rfl

/-- Inside of a tick a loop has begun one more than it has ended. -/
theorem tracks_ahead (tick : OperationId)
    (inside : hub.loopTick? loop = some tick) :
    ((lives loop).instants .began).length =
      ((lives loop).instants .ended).length + 1 := by
  rw [loopTick?_eq] at inside
  have stands := tracks.stands
  generalize hub.loops[loop]? = found at stands inside
  cases stands with
  | ticking cancelled origin operation entered paced ahead early past =>
      exact ahead
  | unborn => cases inside
  | waits => cases inside
  | idle => cases inside
  | stillborn => cases inside
  | isOver => cases inside

variable (origin : Instant) (once : (lives loop).instants .entered = [origin])

include once

theorem tracks_keepsTime : KeepsTime origin hub.interval (lives loop) :=
  (hub.tracks_entered now loop lives tracks origin
    (once ▸ List.mem_singleton_self origin)).2

variable (brisk : (lives loop).IsBrisk origin hub.interval now)

include brisk

/-- A loop that nobody asked to shut down has begun each tick that was due. -/
theorem tracks_begins (live : hub.isLive loop = true) (count : Nat)
    (known : count ≤ ((lives loop).instants .began).length)
    (late : SnapshotLoop.dueAt origin hub.interval count < now) :
    ((lives loop).instants .began)[count]? =
      some (SnapshotLoop.dueAt origin hub.interval count) := by
  have keeps := hub.tracks_keepsTime now loop lives tracks origin once
  have within : count ≤ ((lives loop).instants .ended).length := by
    cases count with
    | zero => exact Nat.zero_le _
    | succ count => exact brisk_ended brisk count known late
  have further := hub.tracks_complete now loop lives tracks origin count once live
    within (brisk_scheduled keeps brisk count within ▸ late)
  have began := List.getElem?_eq_getElem further
  rw [began, ← brisk_began keeps brisk count _ began]

/-- A loop is inside of its last tick for one interval at most. -/
theorem tracks_inside (tick : OperationId)
    (inside : hub.loopTick? loop = some tick) (earlier : List Instant)
    (begun : Instant)
    (began : (lives loop).instants .began = earlier ++ [begun]) :
    now ≤ begun + hub.interval := by
  have keeps := hub.tracks_keepsTime now loop lives tracks origin once
  have ahead := hub.tracks_ahead now loop lives tracks tick inside
  have level : earlier.length = ((lives loop).instants .ended).length := by
    rw [began, List.length_append, List.length_singleton] at ahead
    exact Nat.add_right_cancel ahead
  have place : ((lives loop).instants .began)[earlier.length]? = some begun := by
    rw [began, List.getElem?_concat_length]
  have timely := brisk earlier.length (List.getElem?_eq_some_iff.mp place).1
  rw [List.getD_eq_getElem?_getD, List.getElem?_eq_none (Nat.le_of_eq level.symm),
    Option.getD_none, dueAt_succ, ← brisk_began keeps brisk _ _ place] at timely
  exact timely

end

/-! ## The tick after an arrival -/

theorem punctual_until (hub before : Hub) (loop : Nat) (clock now last : Instant)
    (event : HubEvent) (first rest : Timeline)
    (reached : hub.run first = some before)
    (punctual : hub.isPunctual loop clock last (first ++ (now, event) :: rest) =
      true) : hub.isPunctual loop clock now first = true := by
  induction first generalizing hub clock with
  | nil =>
      simp only [List.nil_append, isPunctual, Bool.and_eq_true] at punctual
      exact punctual.1
  | cons entry others ih =>
      obtain ⟨sooner, act⟩ := entry
      obtain ⟨step, reacted, othersRun⟩ := (run_cons _ _ _ _ _).mp reached
      simp only [List.cons_append, isPunctual, reacted, Bool.and_eq_true]
        at punctual ⊢
      exact ⟨punctual.1, ih step.hub sooner othersRun punctual.2⟩

theorem going_of_live (hub : Hub) (loop : Nat) (live : hub.isLive loop = true) :
    hub.loopFinished loop = false := by
  unfold isLive at live
  unfold loopFinished
  cases found : hub.loops[loop]? with
  | none =>
      rw [found] at live
      cases live
  | some here =>
      rw [found] at live
      simp only [Option.any_some, SnapshotLoop.isLive, Bool.and_eq_true,
        Bool.not_eq_true'] at live
      exact live.1

section

variable (config : HubConfig) (valid : config.validate = .ok ())
  (timeline : Timeline) (final : Hub) (loop : Nat) (clock origin last : Instant)
  (reached : (create config).run timeline = some final)
  (punctual : (create config).isPunctual loop clock last timeline = true)

include valid reached punctual

theorem tracks_from : Tracks final last loop
    (fun id => (create config).life id timeline) := by
  have tracks := tracks_run (create config) final clock last loop (fun _ => [])
    timeline (ordered_create config valid) (tracks_create config clock loop)
    punctual reached
  simpa only [List.nil_append] using tracks

variable (live : final.isLive loop = true) (joined : Instant)
  (past rest : Timeline) (event : HubEvent) (before : Hub) (step : Progress)
  (split : timeline = past ++ (joined, event) :: rest)
  (pastRun : (create config).run past = some before)
  (reacted : before.react joined event = some step)
  (restRun : step.hub.run rest = some final)

include live split pastRun reacted restRun

/-- What a loop had begun when an event happened, and what it began later. -/
theorem began_divided : ∃ earlier : List Instant,
    (∀ begun ∈ earlier, begun ≤ joined) ∧
      ((create config).life loop timeline).instants .began =
        earlier ++ (step.hub.beginnings loop rest).map Prod.fst := by
  subst split
  have tracks := before.tracks_react joined loop _ event step
    (ordered_run config valid past before pastRun)
    (tracks_from config valid past before loop clock joined pastRun
      (punctual_until _ before loop clock joined last event past rest pastRun
        punctual)) reacted
  refine ⟨_, step.hub.tracks_begun joined loop _ tracks
    (step.hub.going_run final rest loop restRun (final.going_of_live loop live)), ?_⟩
  rw [life_append _ before loop past _ pastRun, beginnings_instants]
  simp only [life, reacted, livesOn, Life.instants_append, List.append_assoc]

/-- Within one interval of an event the loop begins a tick. -/
theorem tick_follows
    (once : ((create config).life loop timeline).instants .entered = [origin])
    (brisk : ((create config).life loop timeline).IsBrisk origin
      config.snapshotInterval last)
    (after : origin ≤ joined) (late : joined + config.snapshotInterval < last) :
    ∃ begun tick, Beginning step.hub final loop begun tick rest ∧
      begun ≤ joined + config.snapshotInterval := by
  have tracks := tracks_from config valid timeline final loop clock last reached
    punctual
  have interval : final.interval = config.snapshotInterval :=
    interval_run _ _ _ (ordered_create config valid) reached
  rw [← interval] at brisk late ⊢
  have keeps := final.tracks_keepsTime last loop _ tracks origin once
  obtain ⟨earlier, early, parts⟩ := began_divided config valid timeline final loop
    clock last reached punctual live joined past rest event before step split
    pastRun reacted restRun
  have known : earlier.length ≤
      (((create config).life loop timeline).instants .began).length := by
    rw [parts, List.length_append]
    exact Nat.le_add_right _ _
  have due := brisk_due keeps brisk earlier.length joined after (by
    intro tick begun within found
    rw [parts, List.getElem?_append_left within] at found
    exact early begun (List.mem_of_getElem? found)) known
  have begins := final.tracks_begins last loop _ tracks origin once brisk live
    earlier.length known (Nat.lt_of_le_of_lt due late)
  rw [parts, List.getElem?_append_right (Nat.le_refl _), Nat.sub_self] at begins
  cases shown : step.hub.beginnings loop rest with
  | nil =>
      rw [shown] at begins
      cases begins
  | cons first others =>
      obtain ⟨begun, tick⟩ := first
      rw [shown, List.map_cons, List.getElem?_cons_zero] at begins
      have timely : begun = SnapshotLoop.dueAt origin final.interval
          earlier.length := Option.some.inj begins
      exact ⟨begun, tick,
        step.hub.beginnings_first final loop rest begun tick others restRun shown,
        timely ▸ due⟩

end

/-! ## What that tick comes to -/

section

variable (config : HubConfig) (valid : config.validate = .ok ())
  (timeline : Timeline) (final : Hub) (listener : Listener) (tick : OperationId)
  (reached : (create config).run timeline = some final)

include valid reached

/-- A tick that has answered, from a source that did not fail, handed what it got to
a listener that was there whenever it looked. -/
theorem answer_hands (reply : Reply)
    (sound : ∀ mark ∈ (create config).readings timeline, mark.succeeds = true)
    (requested : .requested tick (.tick .checking) ∈
      (create config).journal timeline)
    (returned : .returned tick reply ∈ (create config).journal timeline)
    (sees : ∀ members ∈ Mark.admissions tick ((create config).journal timeline),
      listener ∈ members) :
    ∃ alarms report,
      .returned tick (.tick (.delivered alarms.length report)) ∈
          (create config).journal timeline ∧
        ReadMark.answers tick ((create config).readings timeline) =
            [.alarms alarms] ∧
        (listener, .snapshot alarms) ∈
          Mark.calls tick ((create config).journal timeline) := by
  have ticked := ticked_run config valid timeline final reached
  obtain ⟨outcome, rfl⟩ := ticked.answered tick reply requested returned
  obtain ⟨alarms, report, rfl, answers, calls⟩ :=
    TickRecord.yields_handed _ outcome listener (ticked.yields tick outcome returned)
      sees (ReadMark.answers_succeed tick _ sound)
  exact ⟨alarms, report, returned, answers, calls⟩

variable (loop : Nat) (front others : Timeline) (begun : Instant)
  (event : HubEvent) (middle : Hub) (step : Progress)
  (split : timeline = front ++ (begun, event) :: others)
  (frontRun : (create config).run front = some middle)
  (reacted : middle.react begun event = some step)
  (othersRun : step.hub.run others = some final)
  (lived : SnapshotLoop.moment? middle.loops[loop]? step.hub.loops[loop]? =
    some .began)

include split frontRun

omit reached in
/-- A tick that begins while a listener is there to stay never looks at the registry
without finding it. -/
theorem begun_sees
    (stays : middle.keepsRegistered listener ((begun, event) :: others) = true) :
    ∀ members ∈ Mark.admissions middle.nextOperation
      ((create config).journal timeline), listener ∈ members := by
  intro members granted
  have unborn := ((ticked_run config valid front middle frontRun).unborn
    middle.nextOperation (Nat.le_refl _)).1
  rw [split, journal_append _ middle _ _ frontRun, Mark.admissions_append, unborn,
    List.nil_append] at granted
  exact middle.admissions_registered listener _ _ members stays granted

include reacted othersRun lived

/-- The loop is inside of the tick that it began, for one interval at most, or the
tick has answered. -/
theorem begun_ends (clock origin last : Instant)
    (punctual : (create config).isPunctual loop clock last timeline = true)
    (live : final.isLive loop = true)
    (once : ((create config).life loop timeline).instants .entered = [origin])
    (brisk : ((create config).life loop timeline).IsBrisk origin
      config.snapshotInterval last) :
    (final.loopTick? loop = some middle.nextOperation ∧
        last ≤ begun + config.snapshotInterval) ∨
      ∃ reply, .returned middle.nextOperation reply ∈
        (create config).journal timeline := by
  have here : (create config).run (front ++ [(begun, event)]) = some step.hub :=
    (run_append _ _ _ _).mpr
      ⟨middle, frontRun, (run_singleton _ _ _ _).mpr ⟨step, reacted, rfl⟩⟩
  have ordered := ordered_run config valid _ step.hub here
  have consistent := consistent_run config _ step.hub here
  have inside := middle.began_tick begun event step loop reacted lived
  have named := consistent.named _ (consistent.ticking _
    ((step.hub.mem_scheduledTicks _).mpr ⟨loop, inside⟩))
  obtain ⟨_, later, _, present, _⟩ := moment_began _ _ lived
  rcases step.hub.inside_run final others loop middle.nextOperation ordered named
      othersRun consistent inside
      (step.hub.unlost_run final others loop othersRun
        (final.going_of_live loop live) later present) with
    still | ⟨reply, answered⟩
  · have tracks := tracks_from config valid timeline final loop clock last reached
      punctual
    have interval : final.interval = config.snapshotInterval :=
      interval_run _ _ _ (ordered_create config valid) reached
    have calm := step.hub.life_inside final others loop middle.nextOperation ordered
      named othersRun still
    have began : ((create config).life loop timeline).instants .began =
        ((create config).life loop front).instants .began ++ [begun] := by
      rw [split, life_append _ middle loop front _ frontRun]
      simp only [life, reacted, calm, List.append_nil, Life.instants_append,
        instants_moments, if_pos lived]
    rw [← interval] at brisk ⊢
    exact Or.inl ⟨still, final.tracks_inside last loop _ tracks origin once brisk
      _ still _ begun began⟩
  · refine Or.inr ⟨reply, ?_⟩
    rw [split, journal_append _ middle _ _ frontRun,
      middle.journal_cons begun event others step reacted]
    exact List.mem_append_right _ (List.mem_append_right _ answered)

/-- It covers a listener that was there to stay when it began. -/
theorem begun_covers (clock origin joined last : Instant)
    (punctual : (create config).isPunctual loop clock last timeline = true)
    (live : final.isLive loop = true)
    (once : ((create config).life loop timeline).instants .entered = [origin])
    (brisk : ((create config).life loop timeline).IsBrisk origin
      config.snapshotInterval last)
    (sound : ∀ mark ∈ (create config).readings timeline, mark.succeeds = true)
    (stays : middle.keepsRegistered listener ((begun, event) :: others) = true)
    (timely : begun ≤ joined + config.snapshotInterval) :
    (create config).Covers final timeline loop listener joined last
      middle.nextOperation := by
  have sees := begun_sees config valid timeline listener front others begun event
    middle split frontRun stays
  refine ⟨⟨begun, ?_, timely⟩, sees, ?_⟩
  · rw [split, beginnings_append _ middle loop _ _ frontRun,
      middle.beginnings_began begun event step loop others reacted lived]
    exact List.mem_append_right _ List.mem_cons_self
  · rcases begun_ends config valid timeline final reached loop front others begun
        event middle step split frontRun reacted othersRun lived clock origin last
        punctual live once brisk with
      ⟨inside, bound⟩ | ⟨reply, returned⟩
    · exact Or.inl ⟨inside,
        Duration.le_trans _ _ _ bound (Nat.add_le_add_right timely _)⟩
    · right
      apply answer_hands config valid timeline final listener _ reached reply sound ?_
        returned sees
      rw [split, journal_append _ middle _ _ frontRun,
        middle.journal_cons begun event others step reacted]
      exact List.mem_append_right _ (List.mem_append_left _
        (middle.began_requested begun event step loop reacted
          (consistent_run config front middle frontRun) lived))

end

/-- One listener joins after a tick that found nobody, and another one while the
next tick reads the source. -/
def latecomersTimeline : Timeline :=
  [(.ofMillis 0, .start true), (.ofMillis 0, .advanceLoop 0),
    (.ofMillis 0, .advanceLoop 0), (.ofMillis 0, .advanceLoop 0),
    (.ofMillis 1000, .ask (.subscribe ⟨1, "pager"⟩)), (.ofMillis 1000, .advance 1),
    (.ofMillis 5000, .advanceLoop 0), (.ofMillis 5000, .advanceLoop 0),
    (.ofMillis 6000, .ask (.subscribe ⟨2, "mail"⟩)), (.ofMillis 6000, .advance 3),
    (.ofMillis 7000, .answerScan 2 (.alarms [])), (.ofMillis 7000, .advanceLoop 0),
    (.ofMillis 8000, .answerCall 2 (.failed (.rejected "full"))),
    (.ofMillis 9000, .answerCall 2 .accepted), (.ofMillis 9000, .advanceLoop 0),
    (.ofMillis 10000, .advanceLoop 0), (.ofMillis 10000, .advanceLoop 0),
    (.ofMillis 11000, .answerScan 4 (.alarms [])), (.ofMillis 11000, .advanceLoop 0),
    (.ofMillis 11000, .answerCall 4 .accepted),
    (.ofMillis 11000, .answerCall 4 .accepted), (.ofMillis 11000, .advanceLoop 0)]

end Hub
end AlarmRelay
