import AlarmRelay.Proofs.Hub.Phase
import AlarmRelay.Proofs.Pace

/-!
# The lives of loops

What the lives of all loops say about where one of them stands.  On a clock that
keeps up with a loop, `Tracks` is kept as time passes and by every event, so a loop
enters its schedule at the instant that its life and that of the loop before it
call for, and its ticks are paced from then on.
-/

set_option autoImplicit false

namespace AlarmRelay.Hub

/-- The loop is to enter its schedule at `origin`: when it is spawned, or when the
loop before it is over if that is later. -/
def EntersAt (lives : Nat → Life) (loop : Nat) (origin : Instant) : Prop :=
  ∃ spawned, (lives loop).instants .spawned = [spawned] ∧
    match LoopId.previous? loop with
    | none => origin = spawned
    | some previous => ∃ ended, (lives previous).instants .over = [ended] ∧
        origin = max spawned ended

/-- A loop that has entered its schedule at `origin`, as it was to. -/
structure EnteredAt (lives : Nat → Life) (loop : Nat) (origin : Instant) :
    Prop where
  once : (lives loop).instants .entered = [origin]
  meant : EntersAt lives loop origin

/-- What the lives of loops say about one of them at `clock`. -/
inductive Stands (hub : Hub) (clock : Instant) (loop : Nat) (lives : Nat → Life) :
    Option SnapshotLoop → Prop where
  | unborn (nothing : lives loop = []) : Stands hub clock loop lives none
  | waits (cancelled : Bool) (spawned : Instant)
      (born : lives loop = [(.spawned, spawned)]) (past : spawned ≤ clock)
      (free : (∀ previous, LoopId.previous? loop = some previous →
        hub.loopFinished previous = true) → EntersAt lives loop clock) :
      Stands hub clock loop lives
        (some ⟨cancelled, .waiting (LoopId.previous? loop)⟩)
  | idle (cancelled : Bool) (origin : Instant)
      (entered : EnteredAt lives loop origin)
      (paced : Paced origin hub.interval ((lives loop).instants .began)
        ((lives loop).instants .ended))
      (level : ((lives loop).instants .began).length =
        ((lives loop).instants .ended).length)
      (past : ∀ ended ∈ (lives loop).instants .ended, ended ≤ clock)
      (timely : cancelled = false → clock ≤ beginsAt origin hub.interval
        ((lives loop).instants .ended) ((lives loop).instants .ended).length) :
      Stands hub clock loop lives
        (some ⟨cancelled, .idle origin ((lives loop).instants .ended).length⟩)
  | ticking (cancelled : Bool) (origin : Instant) (operation : OperationId)
      (entered : EnteredAt lives loop origin)
      (paced : Paced origin hub.interval ((lives loop).instants .began)
        ((lives loop).instants .ended))
      (ahead : ((lives loop).instants .began).length =
        ((lives loop).instants .ended).length + 1)
      (begun : ∀ begun ∈ (lives loop).instants .began, begun ≤ clock)
      (past : ∀ ended ∈ (lives loop).instants .ended, ended ≤ clock) :
      Stands hub clock loop lives
        (some ⟨cancelled, .ticking origin ((lives loop).instants .ended).length
          operation⟩)
  /-- It never entered its schedule. -/
  | stillborn (cancelled : Bool) (result : LoopEnd)
      (never : (lives loop).instants .entered = []) :
      Stands hub clock loop lives (some ⟨cancelled, .finished result⟩)
  | isOver (cancelled : Bool) (result : LoopEnd) (origin : Instant)
      (entered : EnteredAt lives loop origin)
      (paced : Paced origin hub.interval ((lives loop).instants .began)
        ((lives loop).instants .ended)) :
      Stands hub clock loop lives (some ⟨cancelled, .finished result⟩)

/-- The life of a loop ends once, when the loop is over. -/
structure Ends (hub : Hub) (clock : Instant) (loop : Nat) (life : Life) :
    Prop where
  underWay : (∀ here, hub.loops[loop]? = some here → here.isFinished = false) →
    life.instants .over = []
  isOver : ∀ here, hub.loops[loop]? = some here → here.isFinished = true →
    ∃ ended, life.instants .over = [ended] ∧ ended ≤ clock

/-- What the lives of loops say about a hub at `clock`. -/
structure Tracks (hub : Hub) (clock : Instant) (loop : Nat)
    (lives : Nat → Life) : Prop where
  stands : Stands hub clock loop lives hub.loops[loop]?
  ends : ∀ id, Ends hub clock id (lives id)

/-! ## Time passes -/

section

variable (hub : Hub) (clock now : Instant) (loop : Nat) (lives : Nat → Life)

theorem keepsUp_le (timely : hub.keepsUp loop clock now = true) :
    clock ≤ now := by
  simp only [keepsUp, Bool.and_eq_true, decide_eq_true_eq] at timely
  exact timely.1

theorem keepsUp_wake (wake : Instant)
    (timely : hub.keepsUp loop clock now = true)
    (wakes : hub.loopWake? loop clock = some wake) : now ≤ wake := by
  simp only [keepsUp, wakes, Option.all_some, Bool.and_eq_true,
    decide_eq_true_eq] at timely
  exact timely.2

/-- A loop that waits for nobody any more is not kept waiting. -/
theorem keepsUp_waiting (cancelled : Bool) (previous : Option LoopId)
    (timely : hub.keepsUp loop clock now = true)
    (found : hub.loops[loop]? = some ⟨cancelled, .waiting previous⟩)
    (free : ∀ other, previous = some other → hub.loopFinished other = true) :
    now = clock := by
  have wakes : hub.loopWake? loop clock = some clock := by
    simp only [loopWake?, found]
    cases previous with
    | none => rfl
    | some other => simp [free other rfl]
  exact Duration.le_antisymm _ _ (hub.keepsUp_wake clock now loop clock timely wakes)
    (hub.keepsUp_le clock now loop timely)

theorem ends_pass (passed : clock ≤ now) (id : Nat)
    (ends : Ends hub clock id (lives id)) : Ends hub now id (lives id) where
  underWay := ends.underWay
  isOver := by
    intro here found isOver
    obtain ⟨ended, ceased, past⟩ := ends.isOver here found isOver
    exact ⟨ended, ceased, Duration.le_trans _ _ _ past passed⟩

/-- As time passes on a clock that keeps up, nobody falls behind. -/
theorem tracks_pass (timely : hub.keepsUp loop clock now = true)
    (tracks : Tracks hub clock loop lives) : Tracks hub now loop lives where
  ends id := hub.ends_pass clock now lives (hub.keepsUp_le clock now loop timely) id
    (tracks.ends id)
  stands := by
    have passed := hub.keepsUp_le clock now loop timely
    have stands := tracks.stands
    generalize state : hub.loops[loop]? = found at stands ⊢
    cases stands with
    | unborn nothing => exact .unborn nothing
    | waits cancelled spawned born past free =>
        refine .waits cancelled spawned born
          (Duration.le_trans _ _ _ past passed) ?_
        intro ceased
        have same := hub.keepsUp_waiting clock now loop cancelled _ timely state ceased
        exact same ▸ free ceased
    | idle cancelled origin entered paced level past onTime =>
        refine .idle cancelled origin entered paced level
          (fun ended known => Duration.le_trans _ _ _ (past ended known) passed) ?_
        intro live
        subst live
        have wakes : hub.loopWake? loop clock =
            some (max clock (SnapshotLoop.dueAt origin hub.interval
              ((lives loop).instants .ended).length)) := by
          simp only [loopWake?, state]
        have wake := hub.keepsUp_wake clock now loop _ timely wakes
        apply Duration.le_trans _ _ _ wake
        exact Duration.max_le _ _ _ (onTime rfl) (dueAt_le_beginsAt _ _ _ _)
    | ticking cancelled origin operation entered paced ahead begun past =>
        exact .ticking cancelled origin operation entered paced ahead
          (fun tick known => Duration.le_trans _ _ _ (begun tick known) passed)
          (fun ended known => Duration.le_trans _ _ _ (past ended known) passed)
    | stillborn cancelled result never => exact .stillborn cancelled result never
    | isOver cancelled result origin entered paced =>
        exact .isOver cancelled result origin entered paced

end

/-! ## An event happens -/

section

variable (hub next : Hub) (now : Instant)

theorem moment_over (here later : SnapshotLoop) :
    SnapshotLoop.moment? (some here) (some later) = some .over ↔
      here.isFinished = false ∧ later.isFinished = true := by
  obtain ⟨asked, phase⟩ := here
  obtain ⟨askedLater, phaseLater⟩ := later
  cases phase <;> cases phaseLater <;>
    simp [SnapshotLoop.moment?, SnapshotLoop.isFinished]

theorem moment_spawned (before after : Option SnapshotLoop)
    (lived : SnapshotLoop.moment? before after = some .spawned) :
    before = none ∧ ∃ fresh, after = some fresh := by
  cases before with
  | none =>
      cases after with
      | none => cases lived
      | some fresh => exact ⟨rfl, fresh, rfl⟩
  | some here =>
      obtain ⟨asked, phase⟩ := here
      cases after with
      | none => cases phase <;> cases lived
      | some later =>
          obtain ⟨askedLater, phaseLater⟩ := later
          cases phase <;> cases phaseLater <;> cases lived

theorem instants_moments (loop : Nat) (moment : Moment) :
    (hub.moments next now loop).instants moment =
      if SnapshotLoop.moment? hub.loops[loop]? next.loops[loop]? = some moment then
        [now]
      else [] := by
  rw [moments]
  cases SnapshotLoop.moment? hub.loops[loop]? next.loops[loop]? with
  | none => rfl
  | some happened =>
      by_cases same : happened = moment
      · simp [Life.instants, same]
      · simp [Life.instants, same]

theorem moments_over (loop : Nat) (here : SnapshotLoop)
    (found : hub.loops[loop]? = some here) (isOver : here.isFinished = true) :
    hub.moments next now loop = [] := by
  obtain ⟨cancelled, phase⟩ := here
  cases phase with
  | finished result =>
      rw [moments, found]
      cases next.loops[loop]? with
      | none => rfl
      | some later => rfl
  | _ => cases isOver

/-- The life of a loop ends in the event in which the loop is over. -/
theorem ends_react (loop : Nat) (life : Life) (ends : Ends hub now loop life)
    (evolves : hub.Evolves now next)
    (spawns : ∀ fresh, hub.loops[loop]? = none → next.loops[loop]? = some fresh →
      fresh = .spawned (LoopId.previous? loop)) :
    Ends next now loop (life ++ hub.moments next now loop) := by
  cases found : hub.loops[loop]? with
  | none =>
      have nothing := ends.underWay (by
        intro here present
        rw [found] at present
        cases present)
      have newborn : ∀ later, next.loops[loop]? = some later →
          later.isFinished = false := by
        intro later present
        rw [spawns later found present]
        rfl
      refine ⟨fun _ => ?_, ?_⟩
      · rw [Life.instants_append, nothing, instants_moments, found,
          List.nil_append, if_neg]
        cases next.loops[loop]? with
        | none => intro same; cases same
        | some later => intro same; cases same
      · intro later present isOver
        rw [newborn later present] at isOver
        cases isOver
  | some here =>
      obtain ⟨later, present, stays, _⟩ := hub.wanes_evolves next now evolves loop
        here found
      have ceased := moment_over here later
      rw [← found, ← present] at ceased
      cases running : here.isFinished with
      | true =>
          have same : later.isFinished = true := by
            rw [SnapshotLoop.isFinished, stays running]
            exact running
          rw [moments_over hub next now loop here found running, List.append_nil]
          refine ⟨?_, fun _ _ _ => ends.isOver here found running⟩
          intro open'
          rw [open' later present] at same
          cases same
      | false =>
          have nothing := ends.underWay (by
            intro other known
            rw [found] at known
            cases known
            exact running)
          rw [running] at ceased
          refine ⟨?_, ?_⟩
          · intro underWay
            rw [Life.instants_append, nothing, instants_moments, if_neg]
            · rfl
            · rw [ceased, underWay later present]
              rintro ⟨_, isOver⟩
              cases isOver
          · intro other known isOver
            rw [present] at known
            cases known
            refine ⟨now, ?_, Nat.le_refl _⟩
            rw [Life.instants_append, nothing, instants_moments,
              if_pos (ceased.mpr ⟨rfl, isOver⟩)]
            rfl

/-- The lives of all loops after an event. -/
def livesOn (lives : Nat → Life) : Nat → Life :=
  fun id => lives id ++ hub.moments next now id

variable (loop : Nat) (lives : Nat → Life)

theorem moments_stays (here later : SnapshotLoop)
    (found : hub.loops[loop]? = some here) (present : next.loops[loop]? = some later)
    (stays : later.phase = here.phase) : hub.moments next now loop = [] := by
  obtain ⟨asked, phase⟩ := here
  obtain ⟨askedLater, phaseLater⟩ := later
  cases stays
  rw [moments, found, present]
  cases phase <;> rfl

theorem livesOn_stays (here later : SnapshotLoop)
    (found : hub.loops[loop]? = some here) (present : next.loops[loop]? = some later)
    (stays : later.phase = here.phase) :
    hub.livesOn next now lives loop = lives loop := by
  rw [livesOn, hub.moments_stays next now loop here later found present stays,
    List.append_nil]

theorem moments_spawned (here : SnapshotLoop)
    (found : hub.loops[loop]? = some here) :
    (hub.moments next now loop).instants .spawned = [] := by
  rw [instants_moments, if_neg]
  intro lived
  have absent := (moment_spawned _ _ lived).1
  rw [found] at absent
  cases absent

theorem moments_entered (here : SnapshotLoop)
    (found : hub.loops[loop]? = some here)
    (inside : ∀ previous, here.phase ≠ .waiting previous) :
    (hub.moments next now loop).instants .entered = [] := by
  obtain ⟨asked, phase⟩ := here
  rw [instants_moments, found, if_neg]
  cases next.loops[loop]? with
  | none => cases phase <;> exact fun same => nomatch same
  | some later =>
      obtain ⟨askedLater, phaseLater⟩ := later
      cases phase with
      | waiting previous => exact (inside previous rfl).elim
      | _ => cases phaseLater <;> exact fun same => nomatch same

theorem instants_livesOn (moment : Moment) :
    (hub.livesOn next now lives loop).instants moment =
      (lives loop).instants moment ++
        if SnapshotLoop.moment? hub.loops[loop]? next.loops[loop]? = some moment then
          [now]
        else [] := by
  rw [livesOn, Life.instants_append, instants_moments]

theorem instants_lived (happened moment : Moment)
    (lived : SnapshotLoop.moment? hub.loops[loop]? next.loops[loop]? =
      some happened) :
    (hub.livesOn next now lives loop).instants moment =
      (lives loop).instants moment ++ if happened = moment then [now] else [] := by
  rw [instants_livesOn, lived]
  by_cases same : happened = moment
  · simp [same]
  · simp [same]

theorem previous_over (ends : ∀ id, Ends hub now id (lives id))
    (here : SnapshotLoop) (found : hub.loops[loop]? = some here) (previous : Nat)
    (before : LoopId.previous? loop = some previous)
    (ceased : hub.loopFinished previous = true) :
    ∃ ended, (lives previous).instants .over = [ended] ∧ ended ≤ now := by
  obtain ⟨rfl⟩ : loop = previous + 1 := by
    cases loop with
    | zero => cases before
    | succ other => cases before; rfl
  have within := (List.getElem?_eq_some_iff.mp found).1
  have known : hub.loops[previous]? = some hub.loops[previous] :=
    List.getElem?_eq_getElem (by omega)
  rw [loopFinished, known] at ceased
  exact (ends previous).isOver _ known ceased

theorem entersAt_react (origin : Instant) (ends : ∀ id, Ends hub now id (lives id))
    (here : SnapshotLoop) (found : hub.loops[loop]? = some here)
    (enters : EntersAt lives loop origin) :
    EntersAt (hub.livesOn next now lives) loop origin := by
  obtain ⟨spawned, once, rest⟩ := enters
  refine ⟨spawned, ?_, ?_⟩
  · rw [livesOn, Life.instants_append, once,
      hub.moments_spawned next now loop here found]
    rfl
  · cases before : LoopId.previous? loop with
    | none => simpa only [before] using rest
    | some previous =>
        simp only [before] at rest ⊢
        obtain ⟨ended, ceased, later⟩ := rest
        refine ⟨ended, ?_, later⟩
        -- A life that has ended is that of a loop that is over.
        have isOver : ∃ other, hub.loops[previous]? = some other ∧
            other.isFinished = true := by
          refine Classical.byContradiction fun none => ?_
          rw [(ends previous).underWay] at ceased
          · cases ceased
          · intro other known
            exact Bool.eq_false_iff.mpr fun isOver => none ⟨other, known, isOver⟩
        obtain ⟨other, known, isOver⟩ := isOver
        rw [livesOn, moments_over hub next now previous other known isOver,
          List.append_nil]
        exact ceased

theorem enteredAt_react (origin : Instant)
    (ends : ∀ id, Ends hub now id (lives id)) (here : SnapshotLoop)
    (found : hub.loops[loop]? = some here)
    (inside : ∀ previous, here.phase ≠ .waiting previous)
    (entered : EnteredAt lives loop origin) :
    EnteredAt (hub.livesOn next now lives) loop origin where
  meant := hub.entersAt_react next now loop lives origin ends here found
    entered.meant
  once := by
    rw [livesOn, Life.instants_append, entered.once,
      hub.moments_entered next now loop here found inside]
    rfl

theorem snoc_le (instants : List Instant)
    (past : ∀ instant ∈ instants, instant ≤ now) :
    ∀ instant ∈ instants ++ [now], instant ≤ now := by
  intro instant known
  rcases List.mem_append.mp known with old | fresh
  · exact past instant old
  · rw [List.mem_singleton.mp fresh]
    exact Nat.le_refl _

theorem stands_spawned (nothing : lives loop = [])
    (found : hub.loops[loop]? = none)
    (present : next.loops[loop]? = some (.spawned (LoopId.previous? loop)))
    (ends : ∀ id, Ends next now id (hub.livesOn next now lives id)) :
    Stands next now loop (hub.livesOn next now lives) next.loops[loop]? := by
  have born : hub.livesOn next now lives loop = [(.spawned, now)] := by
    rw [livesOn, nothing, moments, found, present]
    rfl
  rw [present]
  refine .waits false now born (Nat.le_refl _) ?_
  intro free
  refine ⟨now, by rw [born]; rfl, ?_⟩
  cases before : LoopId.previous? loop with
  | none => rfl
  | some previous =>
      obtain ⟨ended, ceased, past⟩ := next.previous_over now loop _ ends _ present
        previous before (free previous before)
      exact ⟨ended, ceased, (Duration.max_of_ge _ _ past).symm⟩

end

/-! ## The steps of one loop -/

section

variable (hub next : Hub) (now : Instant) (loop : Nat) (lives : Nat → Life)
  (later : SnapshotLoop) (tracks : Tracks hub now loop lives)
  (interval : next.interval = hub.interval)
  (present : next.loops[loop]? = some later)

include tracks present

/-- A loop enters its schedule in the instant in which the loop before it comes to
its end. -/
theorem entersAt_freed (spawned : Instant)
    (born : hub.livesOn next now lives loop = [(.spawned, spawned)])
    (past : spawned ≤ now)
    (waits : ¬ ∀ previous, LoopId.previous? loop = some previous →
      hub.loopFinished previous = true)
    (ceased : ∀ previous, LoopId.previous? loop = some previous →
      next.loopFinished previous = true)
    (ends : ∀ id, Ends next now id (hub.livesOn next now lives id)) :
    EntersAt (hub.livesOn next now lives) loop now := by
  refine ⟨spawned, by rw [born]; rfl, ?_⟩
  cases before : LoopId.previous? loop with
  | none =>
      refine (waits ?_).elim
      intro previous known
      rw [before] at known
      cases known
  | some previous =>
      obtain ⟨ended, isOver, _⟩ := next.previous_over now loop _ ends _ present
        previous before (ceased previous before)
      have nothing := (tracks.ends previous).underWay (by
        intro here known
        refine Bool.eq_false_iff.mpr fun gone => waits ?_
        intro other same
        rw [before] at same
        cases same
        rw [loopFinished, known]
        exact gone)
      refine ⟨ended, isOver, ?_⟩
      rw [instants_livesOn, nothing, List.nil_append] at isOver
      split at isOver
      · cases isOver
        exact (Duration.max_of_le _ _ past).symm
      · cases isOver

theorem stands_waiting (cancelled : Bool)
    (found : hub.loops[loop]? = some ⟨cancelled, .waiting (LoopId.previous? loop)⟩)
    (spawned : Instant) (born : lives loop = [(.spawned, spawned)])
    (past : spawned ≤ now)
    (free : (∀ previous, LoopId.previous? loop = some previous →
      hub.loopFinished previous = true) → EntersAt lives loop now)
    (ends : ∀ id, Ends next now id (hub.livesOn next now lives id))
    (phases : PhaseStep hub now ⟨cancelled, .waiting (LoopId.previous? loop)⟩
      later.phase) :
    Stands next now loop (hub.livesOn next now lives) (some later) := by
  have ends' := tracks.ends
  obtain ⟨asked, phase⟩ := later
  generalize shape : phase = arrived at phases
  cases phases with
  | stays =>
      subst shape
      have same := hub.livesOn_stays next now loop lives _ _ found present rfl
      refine .waits asked spawned (same.trans born) past ?_
      intro ceased
      by_cases free' : ∀ previous, LoopId.previous? loop = some previous →
          hub.loopFinished previous = true
      · exact hub.entersAt_react next now loop lives now ends' _ found (free free')
      · exact hub.entersAt_freed next now loop lives _ tracks present spawned
          (same.trans born) past free' ceased ends
  | enters previous waits ceased =>
      subst shape
      cases waits
      have grown : hub.livesOn next now lives loop =
          [(.spawned, spawned), (.entered, now)] := by
        rw [livesOn, born, moments, found, present]
        rfl
      have entered : EnteredAt (hub.livesOn next now lives) loop now :=
        ⟨by rw [grown]; rfl,
          hub.entersAt_react next now loop lives now ends' _ found (free ceased)⟩
      have began : (hub.livesOn next now lives loop).instants .began = [] := by
        rw [grown]
        rfl
      have ended : (hub.livesOn next now lives loop).instants .ended = [] := by
        rw [grown]
        rfl
      have idle := Stands.idle asked now entered
        (by rw [began, ended]; exact paced_nil _ next.interval)
        (by rw [began, ended]) (by rw [ended]; intro tick known; cases known)
        (fun _ => by rw [ended]; exact Nat.le_refl _)
      rw [ended] at idle
      exact idle
  | begins origin ticks idle live due => cases idle
  | ends origin ticks operation inside => cases inside
  | finishes result running =>
      subst shape
      refine .stillborn asked result ?_
      rw [livesOn, born, moments, found, present]
      rfl

omit tracks present in
/-- A loop that has kept to its schedule has done so when it is over. -/
theorem stands_over (here : SnapshotLoop) (asked : Bool) (result : LoopEnd)
    (origin : Instant) (found : hub.loops[loop]? = some here)
    (running : here.isFinished = false)
    (ended : next.loops[loop]? = some ⟨asked, .finished result⟩)
    (entered : EnteredAt (hub.livesOn next now lives) loop origin)
    (paced : Paced origin next.interval ((lives loop).instants .began)
      ((lives loop).instants .ended)) :
    Stands next now loop (hub.livesOn next now lives)
      (some ⟨asked, .finished result⟩) := by
  have lived : SnapshotLoop.moment? hub.loops[loop]? next.loops[loop]? =
      some .over := by
    rw [found, ended]
    exact (moment_over here _).mpr ⟨running, rfl⟩
  have began := hub.instants_lived next now loop lives _ .began lived
  have past := hub.instants_lived next now loop lives _ .ended lived
  rw [if_neg (by decide), List.append_nil] at began past
  exact .isOver asked result origin entered (by rw [began, past]; exact paced)

include interval

theorem stands_idle (cancelled : Bool) (origin : Instant)
    (found : hub.loops[loop]? = some ⟨cancelled, .idle origin
      ((lives loop).instants .ended).length⟩)
    (entered : EnteredAt lives loop origin)
    (paced : Paced origin hub.interval ((lives loop).instants .began)
      ((lives loop).instants .ended))
    (level : ((lives loop).instants .began).length =
      ((lives loop).instants .ended).length)
    (past : ∀ ended ∈ (lives loop).instants .ended, ended ≤ now)
    (timely : cancelled = false → now ≤ beginsAt origin hub.interval
      ((lives loop).instants .ended) ((lives loop).instants .ended).length)
    (asks : cancelled = true → later.cancelled = true)
    (phases : PhaseStep hub now ⟨cancelled, .idle origin
      ((lives loop).instants .ended).length⟩ later.phase) :
    Stands next now loop (hub.livesOn next now lives) (some later) := by
  have entered' := hub.enteredAt_react next now loop lives origin tracks.ends _ found
    (fun _ same => nomatch same) entered
  obtain ⟨asked, phase⟩ := later
  generalize shape : phase = arrived at phases
  rw [← interval] at paced timely
  cases phases with
  | stays =>
      subst shape
      have same := hub.livesOn_stays next now loop lives _ _ found present rfl
      have idle := Stands.idle asked origin entered' (same ▸ paced) (same ▸ level)
        (same ▸ past) (by
          intro live
          rw [same]
          apply timely
          exact Bool.eq_false_iff.mpr fun was => nomatch live.symm.trans (asks was))
      rw [same] at idle
      exact idle
  | enters previous waits ceased => cases waits
  | begins origin ticks idle live due =>
      subst shape
      cases idle
      have lived : SnapshotLoop.moment? hub.loops[loop]? next.loops[loop]? =
          some .began := by
        rw [found, present]
        rfl
      have began := hub.instants_lived next now loop lives _ .began lived
      have ended := hub.instants_lived next now loop lives _ .ended lived
      rw [if_pos rfl] at began
      rw [if_neg (by decide), List.append_nil] at ended
      have onTime : now = beginsAt origin next.interval
          ((lives loop).instants .ended) ((lives loop).instants .ended).length :=
        Duration.le_antisymm _ _ (timely live)
          (beginsAt_le _ _ _ now (interval ▸ due) past)
      have ticking := Stands.ticking asked origin hub.nextOperation entered'
        (by rw [began, ended]; exact paced_begin _ _ _ _ now paced level onTime)
        (by rw [began, ended, List.length_append, level]; rfl)
        (by
          rw [began]
          exact snoc_le now _ (paced_past _ _ _ _ now paced level past))
        (by rw [ended]; exact past)
      rw [ended] at ticking
      exact ticking
  | ends origin ticks operation inside => cases inside
  | finishes result running =>
      subst shape
      exact hub.stands_over next now loop lives _ asked result origin found running
        present entered' paced

theorem stands_ticking (cancelled : Bool) (origin : Instant)
    (operation : OperationId)
    (found : hub.loops[loop]? = some ⟨cancelled, .ticking origin
      ((lives loop).instants .ended).length operation⟩)
    (entered : EnteredAt lives loop origin)
    (paced : Paced origin hub.interval ((lives loop).instants .began)
      ((lives loop).instants .ended))
    (ahead : ((lives loop).instants .began).length =
      ((lives loop).instants .ended).length + 1)
    (begun : ∀ begun ∈ (lives loop).instants .began, begun ≤ now)
    (past : ∀ ended ∈ (lives loop).instants .ended, ended ≤ now)
    (phases : PhaseStep hub now ⟨cancelled, .ticking origin
      ((lives loop).instants .ended).length operation⟩ later.phase) :
    Stands next now loop (hub.livesOn next now lives) (some later) := by
  have entered' := hub.enteredAt_react next now loop lives origin tracks.ends _ found
    (fun _ same => nomatch same) entered
  obtain ⟨asked, phase⟩ := later
  generalize shape : phase = arrived at phases
  rw [← interval] at paced
  cases phases with
  | stays =>
      subst shape
      have same := hub.livesOn_stays next now loop lives _ _ found present rfl
      have ticking := Stands.ticking asked origin operation entered' (same ▸ paced)
        (same ▸ ahead) (same ▸ begun) (same ▸ past)
      rw [same] at ticking
      exact ticking
  | enters previous waits ceased => cases waits
  | begins origin ticks idle live due => cases idle
  | ends origin ticks operation inside =>
      subst shape
      cases inside
      have lived : SnapshotLoop.moment? hub.loops[loop]? next.loops[loop]? =
          some .ended := by
        rw [found, present]
        rfl
      have began := hub.instants_lived next now loop lives _ .began lived
      have ended := hub.instants_lived next now loop lives _ .ended lived
      rw [if_neg (by decide), List.append_nil] at began
      rw [if_pos rfl] at ended
      have length : ((lives loop).instants .ended ++ [now]).length =
          ((lives loop).instants .ended).length + 1 := List.length_append
      have idle := Stands.idle asked origin entered'
        (by rw [began, ended]; exact paced_end _ _ _ _ now paced ahead begun)
        (by rw [began, ended, length, ahead])
        (by
          rw [ended]
          exact snoc_le now _ past)
        (by
          intro live
          rw [ended, length, beginsAt]
          simpa [List.getD] using Duration.le_max_right _ now)
      rw [ended, length] at idle
      exact idle
  | finishes result running =>
      subst shape
      exact hub.stands_over next now loop lives _ asked result origin found running
        present entered' paced

end

section

variable (hub next : Hub) (now : Instant) (loop : Nat) (lives : Nat → Life)

theorem finished_react (cancelled : Bool) (result : LoopEnd)
    (found : hub.loops[loop]? = some ⟨cancelled, .finished result⟩)
    (evolves : hub.Evolves now next) :
    ∃ asked, next.loops[loop]? = some ⟨asked, .finished result⟩ ∧
      hub.livesOn next now lives loop = lives loop := by
  obtain ⟨⟨asked, phase⟩, present, stays, _⟩ :=
    hub.wanes_evolves next now evolves loop _ found
  have same : phase = .finished result := stays rfl
  subst same
  refine ⟨asked, present, ?_⟩
  rw [livesOn, moments_over hub next now loop _ found rfl, List.append_nil]

/-- An event at an instant up to which nobody has fallen behind leaves nobody
behind. -/
theorem tracks_react (event : HubEvent) (step : Progress) (ordered : hub.Ordered)
    (tracks : Tracks hub now loop lives)
    (reacted : hub.react now event = some step) :
    Tracks step.hub now loop (hub.livesOn step.hub now lives) := by
  have evolves := hub.react_evolves now event step reacted
  have interval := hub.interval_react now event step ordered.timed reacted
  have spawns : ∀ (id : Nat) (fresh : SnapshotLoop), hub.loops[id]? = none →
      step.hub.loops[id]? = some fresh →
        fresh = .spawned (LoopId.previous? id) := by
    intro id fresh before after
    exact (hub.react_spawned now event step id fresh ordered reacted before
      after).2.2
  have ends : ∀ id, Ends step.hub now id (hub.livesOn step.hub now lives id) :=
    fun id => hub.ends_react step.hub now id _ (tracks.ends id) evolves (spawns id)
  refine ⟨?_, ends⟩
  have stands := tracks.stands
  generalize state : hub.loops[loop]? = found at stands
  cases stands with
  | unborn nothing =>
      cases present : step.hub.loops[loop]? with
      | none =>
          refine .unborn ?_
          rw [livesOn, nothing, moments, state, present]
          rfl
      | some fresh =>
          have same := spawns loop fresh state present
          subst same
          rw [← present]
          exact hub.stands_spawned step.hub now loop lives nothing state present ends
  | waits cancelled spawned born past free =>
      obtain ⟨later, present, phases, _⟩ := evolves loop _ state
      rw [present]
      exact hub.stands_waiting step.hub now loop lives later tracks present cancelled
        state spawned born past free ends phases
  | idle cancelled origin entered paced level past timely =>
      obtain ⟨later, present, phases, asks⟩ := evolves loop _ state
      rw [present]
      exact hub.stands_idle step.hub now loop lives later tracks interval present
        cancelled origin state entered paced level past timely asks phases
  | ticking cancelled origin operation entered paced ahead begun past =>
      obtain ⟨later, present, phases, _⟩ := evolves loop _ state
      rw [present]
      exact hub.stands_ticking step.hub now loop lives later tracks interval present
        cancelled origin operation state entered paced ahead begun past phases
  | stillborn cancelled result never =>
      obtain ⟨asked, present, same⟩ :=
        hub.finished_react step.hub now loop lives cancelled result state evolves
      rw [present]
      exact .stillborn asked result (same.symm ▸ never)
  | isOver cancelled result origin entered paced =>
      obtain ⟨asked, present, same⟩ :=
        hub.finished_react step.hub now loop lives cancelled result state evolves
      rw [present]
      exact .isOver asked result origin
        (hub.enteredAt_react step.hub now loop lives origin tracks.ends _ state
          (fun _ phase => nomatch phase) entered)
        (by rw [same, interval]; exact paced)

end

end AlarmRelay.Hub
