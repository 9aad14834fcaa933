import AlarmRelay.Proofs.Hub.Ticks
import Mathlib.Data.Nat.Find

/-!
# Loops take turns

The loops of one hub exclude each other, enter their schedules in the order in
which they were started, and the oldest one that is not over can always enter.
The owned loop is the only one that nobody has asked to shut down.
-/

set_option autoImplicit false

namespace AlarmRelay.Hub

/-! ## One loop at a time -/

theorem inside_unique (hub : Hub) (first second : Nat)
    (linked : hub.chain.Linked) (firstInside : hub.isInside first = true)
    (secondInside : hub.isInside second = true) : first = second := by
  obtain ⟨_, firstLink⟩ := (hub.isInside_iff first).mp firstInside
  obtain ⟨_, secondLink⟩ := (hub.isInside_iff second).mp secondInside
  rcases Nat.lt_trichotomy first second with before | same | after
  · have isOver := linked.order first second _ before secondLink
      (by simp [Stage.rank])
    cases isOver _ firstLink
  · exact same
  · have isOver := linked.order second first _ after firstLink
      (by simp [Stage.rank])
    cases isOver _ secondLink

/-- Two ticks that loops are inside of at the same time are one. -/
theorem scheduledTicks_unique (hub : Hub) (first second : OperationId)
    (linked : hub.chain.Linked) (firstTick : first ∈ hub.scheduledTicks)
    (secondTick : second ∈ hub.scheduledTicks) : first = second := by
  obtain ⟨loop, ticking⟩ := (hub.mem_scheduledTicks first).mp firstTick
  obtain ⟨other, otherTicking⟩ := (hub.mem_scheduledTicks second).mp secondTick
  have same := hub.inside_unique loop other linked
    (hub.isInside_of_loopTick loop first ticking)
    (hub.isInside_of_loopTick other second otherTicking)
  rw [same] at ticking
  exact Option.some.inj (ticking.symm.trans otherTicking)

/-! ## The owned loop -/

theorem isRunning_iff (hub : Hub) :
    hub.isRunning = true ↔
      ∃ id, hub.task = some id ∧ hub.loopFinished id = false := by
  unfold isRunning
  cases hub.task with
  | none => simp
  | some id => simp

theorem isLive_owned (hub : Hub) (id : Nat) (linked : hub.chain.Linked) :
    hub.isLive id = true ↔ hub.isRunning = true ∧ hub.task = some id := by
  have finished : ∀ stage, hub.chain.links[id]? = some ⟨false, stage⟩ →
      (stage ≠ .isOver ↔ hub.loopFinished id = false) := by
    intro stage found
    rw [← Bool.not_eq_true, loopFinished_iff]
    simp [Chain.Over, found]
  rw [isLive_iff, isRunning_iff]
  constructor
  · rintro ⟨stage, found, underWay⟩
    have owned : hub.task = some id := linked.live id stage found underWay
    exact ⟨⟨id, owned, (finished stage found).mp underWay⟩, owned⟩
  · rintro ⟨⟨other, otherOwned, underWay⟩, owned⟩
    rw [owned] at otherOwned
    cases otherOwned
    obtain ⟨_, stage, found⟩ := linked.owned id owned
    exact ⟨stage, found, (finished stage found).mpr underWay⟩

/-! ## Order of entry -/

/-- The loops that enter their schedule in one event. -/
def newEntries (hub next : Hub) : List LoopId :=
  (List.range next.loops.length).filter fun id =>
    next.isInside id && !hub.isInside id

theorem entries_eq (hub : Hub) (timeline : Timeline) :
    hub.entries timeline =
      hub.observe (fun before _ step => before.newEntries step.hub) timeline :=
  rfl

theorem rank_inside (hub : Hub) (id : Nat) :
    hub.isInside id = true ↔ hub.chain.rank id = 1 := by
  rw [isInside_iff]
  unfold Chain.rank
  cases hub.chain.links[id]? with
  | none => simp
  | some link =>
      obtain ⟨cancelled, stage⟩ := link
      cases stage <;> simp [Stage.rank]

/-- A loop that got anywhere had only finished loops before it. -/
theorem rank_order (chain : Chain) (first second : Nat) (linked : chain.Linked)
    (begun : 0 < chain.rank second) (before : first < second) :
    chain.rank first = 2 := by
  cases found : chain.links[second]? with
  | none => simp [Chain.rank, found] at begun
  | some link =>
      have moved : 0 < link.stage.rank := by
        simpa [Chain.rank, found] using begun
      have within := (List.getElem?_eq_some_iff.mp found).1
      exact Chain.rank_of_over chain first
        (linked.order first second link before found moved) (by omega)

/-- The loops that have entered so far stand in the order of their spawning, and
all of them have got somewhere. -/
structure Entered (hub : Hub) (past : List LoopId) : Prop where
  ordered : past.Pairwise (· < ·)
  begun : ∀ id ∈ past, 0 < hub.chain.rank id

theorem entered_react (hub : Hub) (now : Instant) (event : HubEvent)
    (step : Progress) (past : List LoopId) (ordered : hub.Ordered)
    (entered : hub.Entered past)
    (reacted : hub.react now event = some step) :
    step.hub.Entered (past ++ hub.newEntries step.hub) := by
  obtain ⟨_, grows⟩ := hub.ordered_react now event step ordered reacted
  constructor
  · rw [List.pairwise_append]
    refine ⟨entered.ordered, ?_, ?_⟩
    · exact List.Pairwise.filter _ List.pairwise_lt_range
    · intro old member new entering
      simp only [newEntries, List.mem_filter, Bool.and_eq_true,
        Bool.not_eq_true', ← Bool.not_eq_true, rank_inside] at entering
      obtain ⟨_, inside, outside⟩ := entering
      -- A loop that enters had made no progress before the event.
      have waiting : hub.chain.rank new = 0 := by
        have kept := grows new
        omega
      have earlier := entered.begun old member
      rcases Nat.lt_trichotomy old new with before | same | after
      · exact before
      · have stuck : 0 < hub.chain.rank new := same ▸ earlier
        omega
      · have isOver := rank_order hub.chain new old ordered.linked earlier after
        omega
  · intro id member
    rcases List.mem_append.mp member with old | new
    · exact Nat.lt_of_lt_of_le (entered.begun id old) (grows id)
    · simp only [newEntries, List.mem_filter, Bool.and_eq_true,
        rank_inside] at new
      omega

theorem entries_run (config : HubConfig) (valid : config.validate = .ok ())
    (timeline : Timeline) (hub : Hub)
    (reached : (create config).run timeline = some hub) :
    hub.Ordered ∧ hub.Entered ((create config).entries timeline) := by
  rw [entries_eq]
  have start : (create config).Ordered ∧ (create config).Entered [] :=
    ⟨ordered_create config valid, .nil, by intro id none; cases none⟩
  exact observe_induction
    (motive := fun hub past => hub.Ordered ∧ hub.Entered past)
    (fun before now event step past kept reacted =>
      ⟨(before.ordered_react now event step kept.1 reacted).1,
        before.entered_react now event step past kept.1 kept.2 reacted⟩)
    start reached

/-- A loop behind finished loops only is over, inside its schedule, or able to
enter it. -/
theorem loop_enters (hub : Hub) (now : Instant) (id : Nat)
    (ordered : hub.Ordered) (underWay : hub.loopFinished id = false)
    (outside : hub.isInside id = false)
    (earlier : ∀ other, other < id → hub.loopFinished other = true) :
    ∃ step, hub.react now (.advanceLoop id) = some step ∧
      step.hub.isInside id = true := by
  cases found : hub.loops[id]? with
  | none => simp [loopFinished, found] at underWay
  | some loop =>
      obtain ⟨cancelled, phase⟩ := loop
      cases phase with
      | waiting previous =>
          have link : hub.chain.links[id]? =
              some ⟨cancelled, .waiting previous⟩ := by
            simp [chain_links, found, SnapshotLoop.link]
          have behind := ordered.linked.waits id cancelled previous link
          have free : (previous.map hub.loopFinished).getD true = true := by
            rw [behind]
            cases id with
            | zero => rfl
            | succ last => exact earlier last (Nat.lt_succ_self last)
          have entered : hub.advanceLoop now id =
              some (hub.updateLoop id (SnapshotLoop.enter (.idle now 0)),
                [.log (.schedulerStarted hub.interval)]) := by
            simp [advanceLoop, found, free, ordered.timed]
          refine ⟨_, by simp only [react, entered, Option.map_some]; rfl, ?_⟩
          simp [isInside, updateLoop, found, SnapshotLoop.enter,
            SnapshotLoop.isInside]
      | idle origin ticks =>
          simp [isInside, found, SnapshotLoop.isInside] at outside
      | ticking origin ticks operation =>
          simp [isInside, found, SnapshotLoop.isInside] at outside
      | finished result =>
          simp [loopFinished, found, SnapshotLoop.isFinished] at underWay

/-- A hub that runs no loop has none that is stuck: the oldest loop that is not
over can enter its schedule. -/
theorem oldest_enters (hub : Hub) (ordered : hub.Ordered)
    (waiting : ∃ id, hub.loopFinished id = false)
    (outside : ∀ id, hub.isInside id = false) :
    ∃ oldest, hub.loopFinished oldest = false ∧
      (∀ other, other < oldest → hub.loopFinished other = true) ∧
      ∀ now, ∃ step, hub.react now (.advanceLoop oldest) = some step ∧
        step.hub.isInside oldest = true := by
  have earlier : ∀ other, other < Nat.find waiting →
      hub.loopFinished other = true := by
    intro other before
    simpa using Nat.find_min waiting before
  refine ⟨Nat.find waiting, Nat.find_spec waiting, earlier, ?_⟩
  intro now
  exact hub.loop_enters now (Nat.find waiting) ordered (Nat.find_spec waiting)
    (outside _) earlier

/-! ## Starts -/

theorem start_noRuntime (hub : Hub) (inRuntime : Bool) :
    hub.start inRuntime = .error .noRuntime ↔
      hub.isRunning = false ∧ inRuntime = false := by
  unfold start
  cases hub.isRunning <;> cases inRuntime <;> simp

theorem start_keeps (hub : Hub) (now : Instant) (inRuntime : Bool)
    (step : Progress) (reacted : hub.react now (.start inRuntime) = some step)
    (refused : hub.start inRuntime = .error .noRuntime ∨ hub.isRunning = true) :
    step.hub = hub := by
  rcases hub.chain_start now inRuntime step reacted with
    ⟨same, _⟩ | ⟨⟨stopped, inside⟩, _⟩
  · exact same
  · rcases refused with outside | running
    · have absent := ((hub.start_noRuntime inRuntime).mp outside).2
      rw [inside] at absent
      cases absent
    · rw [stopped] at running
      cases running

/-! ## The loops of every run -/

/-- The loops of a hub take turns, given the loops that have entered their
schedule so far and the ticks that loops have begun so far. -/
structure TakesTurns (hub : Hub) (entries : List LoopId)
    (begun : List OperationId) : Prop where
  /-- At most one loop is inside its schedule. -/
  oneInside : ∀ first second, hub.isInside first = true →
    hub.isInside second = true → first = second
  /-- At most one scheduled tick is in flight. -/
  oneTick : ∀ first ∈ begun, ∀ second ∈ begun,
    first ∈ hub.inFlight → second ∈ hub.inFlight → first = second
  /-- A loop under way that nobody asked to shut down is the owned one. -/
  live : ∀ id, hub.isLive id = true ↔
    hub.isRunning = true ∧ hub.task = some id
  /-- A hub runs while there is such a loop. -/
  running : hub.isRunning = true ↔ ∃ id, hub.isLive id = true
  /-- Loops have entered in the order in which they were started. -/
  inOrder : entries.Pairwise (· < ·)
  /-- Nothing blocks the oldest loop under way once no loop is inside. -/
  progress : (∃ id, hub.loopFinished id = false) →
    (∀ id, hub.isInside id = false) →
      ∃ oldest, hub.loopFinished oldest = false ∧
        (∀ other, other < oldest → hub.loopFinished other = true) ∧
        ∀ now, ∃ step, hub.react now (.advanceLoop oldest) = some step ∧
          step.hub.isInside oldest = true
  /-- A start outside of a runtime is refused unless a loop runs already. -/
  refusal : ∀ inRuntime, hub.start inRuntime = .error .noRuntime ↔
    hub.isRunning = false ∧ inRuntime = false
  /-- A refused start and a start of a running hub change nothing. -/
  unchanged : ∀ now inRuntime step,
    hub.react now (.start inRuntime) = some step →
      hub.start inRuntime = .error .noRuntime ∨ hub.isRunning = true →
        step.hub = hub

/-- Whatever callers, listeners, the alarm source and the runtime do to a hub,
its loops take turns. -/
theorem loops_take_turns (config : HubConfig)
    (valid : config.validate = .ok ()) (timeline : Timeline) (hub : Hub)
    (reached : (create config).run timeline = some hub) :
    hub.TakesTurns ((create config).entries timeline)
      ((create config).ticksBegun timeline) := by
  obtain ⟨ordered, entered⟩ := entries_run config valid timeline hub reached
  have begun : hub.Begun ((create config).ticksBegun timeline) :=
    begun_run (create config) hub timeline [] (begun_create config) reached
  have owned := fun id => hub.isLive_owned id ordered.linked
  refine {
    oneInside := fun first second => hub.inside_unique first second ordered.linked
    oneTick := ?_
    live := owned
    running := ?_
    inOrder := entered.ordered
    progress := hub.oldest_enters ordered
    refusal := hub.start_noRuntime
    unchanged := hub.start_keeps }
  · intro first firstBegun second secondBegun firstCurrent secondCurrent
    exact hub.scheduledTicks_unique first second ordered.linked
      (begun.inside first firstBegun firstCurrent)
      (begun.inside second secondBegun secondCurrent)
  · constructor
    · intro running
      obtain ⟨id, task, _⟩ := hub.isRunning_iff.mp running
      exact ⟨id, (owned id).mpr ⟨running, task⟩⟩
    · rintro ⟨id, live⟩
      exact ((owned id).mp live).1

/-- A stop and a start while the first loop is inside a slow tick: the second
loop waits for it. -/
theorem loops_take_turns_restarted :
    HubConfig.standard.validate = .ok () ∧
      ∃ hub, (create .standard).run
          [(⟨0⟩, .start true), (⟨0⟩, .advanceLoop 0), (⟨0⟩, .advanceLoop 0),
            (⟨1⟩, .stop), (⟨2⟩, .start true)] = some hub ∧
        hub.isInside 0 = true ∧ hub.isLive 1 = true ∧
          hub.TakesTurns [0] [0] :=
  ⟨rfl, _, rfl, rfl, rfl,
    loops_take_turns .standard rfl
      [(⟨0⟩, .start true), (⟨0⟩, .advanceLoop 0), (⟨0⟩, .advanceLoop 0),
        (⟨1⟩, .stop), (⟨2⟩, .start true)] _ rfl⟩

end AlarmRelay.Hub
