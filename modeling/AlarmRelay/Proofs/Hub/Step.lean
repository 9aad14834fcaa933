import AlarmRelay.Proofs.Hub.Carrier

/-!
# What one step of a hub can do

The helpers of the hub leave most of its fields alone; the frame lemmas say
which.  `AdvanceCase` and `LoopCase` list everything that a step of an operation
and a step of a loop can do, guards included, so later proofs about steps are
case analyses over these lists and never unfold the steps themselves.
-/

set_option autoImplicit false

namespace AlarmRelay

/-- What an operation without a fan-out answers from a list of listeners. -/
def Operation.readReply? (listeners : List Listener) : Operation → Option Reply
  | .count => some (.count listeners.length)
  | .isEmpty => some (.flag listeners.isEmpty)
  | .listeners => some (.listeners listeners)
  | .tick .checking =>
      if listeners.isEmpty then some (.tick .skipped) else none
  | _ => none

theorem Operation.readReply?_plain (listeners : List Listener)
    (operation : Operation) (reply : Reply)
    (read : operation.readReply? listeners = some reply) :
    operation.fanOut? = none ∧ reply.report? = none := by
  unfold Operation.readReply? at read
  split at read
  · cases read
    exact ⟨rfl, rfl⟩
  · cases read
    exact ⟨rfl, rfl⟩
  · cases read
    exact ⟨rfl, rfl⟩
  · split at read
    · cases read
      exact ⟨rfl, rfl⟩
    · cases read
  · cases read

namespace Hub

/-! ## Frames -/

@[simp] theorem disown_operations (hub : Hub) :
    hub.disown.operations = hub.operations := by
  unfold disown
  split <;> rfl

/-- Reclaiming leaves a hub alone or takes its loop away. -/
theorem reclaim_hub (hub : Hub) :
    hub.reclaim.1 = hub ∨
      ∃ released, hub.reclaim.1 = { hub.disown with released := released } := by
  unfold reclaim
  split
  · dsimp only
    split
    · exact Or.inr ⟨true, rfl⟩
    · exact Or.inr ⟨hub.disown.released, rfl⟩
  · exact Or.inl rfl

@[simp] theorem reclaim_operations (hub : Hub) :
    hub.reclaim.1.operations = hub.operations := by
  rcases hub.reclaim_hub with same | ⟨released, taken⟩
  · rw [same]
  · rw [taken]
    exact hub.disown_operations

@[simp] theorem forget_registry (hub : Hub) (id : OperationId) :
    (hub.forget id).registry = hub.registry.leave id := rfl

@[simp] theorem forget_operations (hub : Hub) (id : OperationId) :
    (hub.forget id).operations =
      hub.operations.filter (fun entry => entry.1 != id) := rfl

theorem conclude_hub (hub : Hub) (id : OperationId) (signals : List Signal)
    (reply : Reply) :
    (hub.conclude id signals reply).hub = (hub.forget id).reclaim.1 := rfl

theorem ask_hub (hub : Hub) (request : Request) :
    (hub.ask request).1 = (hub.begin request.operation).1 := by
  cases request <;> rfl

theorem ask_react (hub : Hub) (now : Instant) (request : Request)
    (step : Progress) (reacted : hub.react now (.ask request) = some step) :
    step.hub = (hub.begin request.operation).1 := by
  simp only [react] at reacted
  split at reacted
  · cases reacted
  · cases reacted
    exact hub.ask_hub request

/-! ## The step of an operation -/

/-- What an operation that runs as `id` may answer, and the registry it leaves
behind when it does. -/
inductive Answer (hub : Hub) (id : OperationId) :
    Operation → Registry → Reply → Prop where
  /-- A listener joins the registry, unless it is there. -/
  | joins (listener : Listener)
      (held : hub.registry.lock.holdsExclusive id = true) :
      Answer hub id (.add listener) (hub.registry.add listener)
        (.flag (!hub.registry.contains listener))
  /-- A listener leaves the registry, if it is there. -/
  | parts (listener : Listener)
      (held : hub.registry.lock.holdsExclusive id = true) :
      Answer hub id (.remove listener) (hub.registry.remove listener)
        (.flag (hub.registry.contains listener))
  /-- An operation answers from the list of listeners. -/
  | reads (operation : Operation) (reply : Reply)
      (held : hub.registry.lock.holdsShared id = true)
      (read : operation.readReply? hub.registry.listeners = some reply) :
      Answer hub id operation hub.registry reply
  | exits (loop : LoopId) (isOver : hub.loopFinished loop = true) :
      Answer hub id (.awaitExit loop) hub.registry .stopped
  /-- A fan-out that has called everybody answers. -/
  | ends (operation : Operation) (delivery : Delivery)
      (report : DispatchReport) (reply : Reply)
      (before : operation.fanOut? = some (delivery, .calling [] report))
      (reported : reply.report? = some report) :
      Answer hub id operation hub.registry reply
  | fails (message : String) :
      Answer hub id (.tick .scanning) hub.registry (.tick (.failed message))

/-- Everything that a step of the operation `id` can do to a hub. -/
inductive AdvanceCase (hub : Hub) (id : OperationId) :
    Operation → Progress → Prop where
  | answers (operation : Operation) (registry : Registry) (reply : Reply)
      (step : Progress) (answer : Answer hub id operation registry reply)
      (result : step.hub =
        ({ hub with registry := registry }.forget id).reclaim.1)
      (replied : step.reply = some reply) :
      AdvanceCase hub id operation step
  /-- A tick that found listeners gives up the lock and reads the source. -/
  | scans (step : Progress)
      (held : hub.registry.lock.holdsShared id = true)
      (somebody : hub.registry.listeners ≠ [])
      (result : step.hub =
        { hub with registry := hub.registry.leave id }.putOperation id
          (.tick .scanning))
      (silent : step.reply = none) :
      AdvanceCase hub id (.tick .checking) step
  /-- A fan-out that got the lock begins its walk. -/
  | walks (operation next : Operation) (delivery : Delivery) (step : Progress)
      (held : hub.registry.lock.holdsShared id = true)
      (before : operation.fanOut? = some (delivery, .awaitingLock))
      (after : next.fanOut? =
        some (delivery, .calling hub.registry.listeners .empty))
      (result : step.hub = hub.putOperation id next)
      (silent : step.reply = none) :
      AdvanceCase hub id operation step

theorem loopFinished_of_phase (hub : Hub) (id : LoopId) (result : LoopEnd)
    (ended : (hub.loops[id]?).map SnapshotLoop.phase =
      some (.finished result)) : hub.loopFinished id = true := by
  obtain ⟨loop, found, phase⟩ := Option.map_eq_some_iff.mp ended
  simp [loopFinished, found, SnapshotLoop.isFinished, phase]

theorem advance_operation (hub : Hub) (id : OperationId) (step : Progress)
    (advanced : hub.advance id = some step) :
    ∃ operation, hub.operation? id = some operation := by
  cases found : hub.operation? id with
  | none => simp [advance, found] at advanced
  | some operation => exact ⟨operation, rfl⟩

/-- Nothing else can happen in a step of an operation with a fan-out. -/
theorem advance_cases_carrier (hub : Hub) (id : OperationId)
    (operation : Operation) (delivery : Delivery) (fanOut : FanOut)
    (step : Progress) (found : hub.operation? id = some operation)
    (carries : operation.fanOut? = some (delivery, fanOut))
    (advanced : hub.advance id = some step) :
    AdvanceCase hub id operation step := by
  cases fanOut with
  | awaitingLock =>
      rw [hub.advance_awaiting id operation delivery found carries] at advanced
      split at advanced
      · rename_i held
        cases advanced
        exact .walks operation _ delivery _ held carries
          (operation.fanOut?_carrying delivery _ _ carries) rfl rfl
      · cases advanced
  | calling pending report =>
      cases pending with
      | nil =>
          obtain ⟨signals, concluded⟩ :=
            hub.advance_walked id operation delivery found report carries
          rw [concluded] at advanced
          cases advanced
          exact .answers operation _ _ _
            (.ends operation delivery report _ carries
              (operation.report?_fanOutReply report)) rfl rfl
      | cons listener rest =>
          rw [hub.advance_calling id operation delivery found listener rest report
            carries] at advanced
          cases advanced

/-- Nothing else can happen in a step of an operation. -/
theorem advance_cases (hub : Hub) (id : OperationId) (operation : Operation)
    (step : Progress) (found : hub.operation? id = some operation)
    (advanced : hub.advance id = some step) :
    AdvanceCase hub id operation step := by
  have stepped := advanced
  unfold advance at advanced
  rw [found] at advanced
  cases operation with
  | add listener =>
      dsimp only at advanced
      split at advanced
      · rename_i held
        cases advanced
        exact .answers _ _ _ _ (.joins listener held) rfl rfl
      · cases advanced
  | remove listener =>
      dsimp only at advanced
      split at advanced
      · rename_i held
        cases advanced
        exact .answers _ _ _ _ (.parts listener held) rfl rfl
      · cases advanced
  | count =>
      dsimp only at advanced
      split at advanced
      · rename_i held
        cases advanced
        exact .answers _ _ _ _ (.reads _ _ held rfl) rfl rfl
      · cases advanced
  | isEmpty =>
      dsimp only at advanced
      split at advanced
      · rename_i held
        cases advanced
        exact .answers _ _ _ _ (.reads _ _ held rfl) rfl rfl
      · cases advanced
  | listeners =>
      dsimp only at advanced
      split at advanced
      · rename_i held
        cases advanced
        exact .answers _ _ _ _ (.reads _ _ held rfl) rfl rfl
      · cases advanced
  | borrow => cases advanced
  | deliver delivery cause fanOut =>
      exact hub.advance_cases_carrier id _ delivery fanOut step found rfl stepped
  | tick phase =>
      cases phase with
      | checking =>
          dsimp only at advanced
          split at advanced
          · rename_i held
            split at advanced
            · rename_i nobody
              cases advanced
              have read : (Operation.tick .checking).readReply?
                  hub.registry.listeners = some (.tick .skipped) := by
                simp only [Operation.readReply?, nobody, if_true]
              exact .answers _ _ _ _ (.reads _ _ held read) rfl rfl
            · rename_i somebody
              cases advanced
              exact .scans _ held (by simpa using somebody) rfl rfl
          · cases advanced
      | scanning => cases advanced
      | delivering alarms fanOut =>
          exact hub.advance_cases_carrier id _ (.snapshot alarms) fanOut step found
            rfl stepped
  | awaitExit loop =>
      dsimp only at advanced
      split at advanced
      · rename_i ended
        cases advanced
        have isOver := loopFinished_of_phase hub loop _ ended
        exact .answers _ _ _ _ (.exits loop isOver) rfl rfl
      · rename_i ended
        cases advanced
        have isOver := loopFinished_of_phase hub loop _ ended
        exact .answers _ _ _ _ (.exits loop isOver) rfl rfl
      · cases advanced

/-! ## The step of a loop -/

/-- Everything that a step of the loop `id` can do to a hub at `now`. -/
inductive LoopCase (hub : Hub) (now : Instant) (id : LoopId) : Hub → Prop where
  /-- The loop before it is over, so it enters its schedule. -/
  | enters (cancelled : Bool) (previous : Option LoopId)
      (found : hub.loops[id]? = some ⟨cancelled, .waiting previous⟩)
      (free : ∀ loop, previous = some loop → hub.loopFinished loop = true)
      (timed : hub.interval.isZero = false) :
      LoopCase hub now id
        (hub.updateLoop id (SnapshotLoop.enter (.idle now 0)))
  /-- The loop before it is over, but there is no interval to tick at. -/
  | refuses (cancelled : Bool) (previous : Option LoopId)
      (found : hub.loops[id]? = some ⟨cancelled, .waiting previous⟩)
      (free : ∀ loop, previous = some loop → hub.loopFinished loop = true)
      (untimed : hub.interval.isZero = true) :
      LoopCase hub now id (hub.finishLoop id .panicked).1
  /-- It sees its cancellation between ticks. -/
  | exits (origin : Instant) (ticks : Nat)
      (found : hub.loops[id]? = some ⟨true, .idle origin ticks⟩) :
      LoopCase hub now id (hub.finishLoop id .exited).1
  /-- Its next tick is due and begins. -/
  | begins (origin : Instant) (ticks : Nat)
      (found : hub.loops[id]? = some ⟨false, .idle origin ticks⟩)
      (due : SnapshotLoop.dueAt origin hub.interval ticks ≤ now) :
      LoopCase hub now id
        ((hub.begin (.tick .checking)).1.updateLoop id
          (SnapshotLoop.enter (.ticking origin ticks hub.nextOperation)))
  /-- The tick that it is inside of goes on. -/
  | ticks (cancelled : Bool) (origin : Instant) (ticks : Nat)
      (operation : OperationId) (step : Progress)
      (found : hub.loops[id]? = some ⟨cancelled, .ticking origin ticks operation⟩)
      (advanced : hub.advance operation = some step) :
      LoopCase hub now id step.hub

/-- Nothing else can happen in a step of a loop. -/
theorem advanceLoop_cases (hub : Hub) (now : Instant) (id : LoopId)
    (result : Hub × List Signal)
    (advanced : hub.advanceLoop now id = some result) :
    LoopCase hub now id result.1 := by
  unfold advanceLoop at advanced
  split at advanced
  · cases advanced
  · rename_i loop found
    obtain ⟨cancelled, phase⟩ := loop
    cases phase with
    | waiting previous =>
        dsimp only at advanced
        split at advanced
        · rename_i isOver
          have free : ∀ loop, previous = some loop →
              hub.loopFinished loop = true := by
            intro loop behind
            simpa [behind] using isOver
          split at advanced
          · rename_i untimed
            cases advanced
            exact .refuses cancelled previous found free untimed
          · rename_i timed
            cases advanced
            exact .enters cancelled previous found free (by simpa using timed)
        · cases advanced
    | idle origin ticks =>
        dsimp only at advanced
        split at advanced
        · rename_i asked
          cases advanced
          subst asked
          exact .exits origin ticks found
        · rename_i wanted
          split at advanced
          · rename_i due
            cases advanced
            have live : cancelled = false := by simpa using wanted
            subst live
            exact .begins origin ticks found due
          · cases advanced
    | ticking origin ticks operation =>
        dsimp only at advanced
        obtain ⟨step, stepped, rfl⟩ := Option.map_eq_some_iff.mp advanced
        exact .ticks cancelled origin ticks operation step found stepped
    | finished ended => cases advanced

/-! ## The loss of the runtime -/

/-- A loop that is not over is killed after its tick, if it is inside of one,
has been forgotten. -/
inductive KillCase (hub : Hub) (id : LoopId) : Hub → Prop where
  | isOver (ended : hub.loopFinished id = true) : KillCase hub id hub
  | between (running : hub.loopFinished id = false)
      (calm : hub.loopTick? id = none) :
      KillCase hub id (hub.finishLoop id .killed).1
  | inside (running : hub.loopFinished id = false) (operation : OperationId)
      (ticking : hub.loopTick? id = some operation) :
      KillCase hub id
        ((hub.forget operation).reclaim.1.finishLoop id .killed).1

theorem killLoop_cases (hub : Hub) (id : LoopId) :
    KillCase hub id (hub.killLoop id).1 := by
  unfold killLoop
  split
  · rename_i ended
    exact .isOver ended
  · rename_i running
    have underWay : hub.loopFinished id = false := by simpa using running
    cases ticking : hub.loopTick? id with
    | none => exact .between underWay ticking
    | some operation => exact .inside underWay operation ticking

/-- The loops are killed one after another, the oldest first. -/
theorem loseRuntime_induction (hub : Hub) {motive : Nat → Hub → Prop}
    (start : motive 0 hub)
    (killed : ∀ count next, count < hub.loops.length → motive count next →
      motive (count + 1) (next.killLoop count).1) :
    motive hub.loops.length hub.loseRuntime.1 := by
  obtain ⟨kill, folds, kills⟩ : ∃ kill : Hub × List Signal → Nat →
      Hub × List Signal,
      hub.loseRuntime = (List.range hub.loops.length).foldl kill (hub, []) ∧
        ∀ state id, (kill state id).1 = (state.1.killLoop id).1 :=
    ⟨_, rfl, fun _ _ => rfl⟩
  have upTo : ∀ count, count ≤ hub.loops.length →
      motive count ((List.range count).foldl kill (hub, [])).1 := by
    intro count
    induction count with
    | zero =>
        intro _
        exact start
    | succ count ih =>
        intro within
        rw [List.range_succ, List.foldl_append, List.foldl_cons, List.foldl_nil,
          kills]
        exact killed count _ within (ih (Nat.le_of_succ_le within))
  rw [folds]
  exact upTo hub.loops.length (Nat.le_refl _)

/-- Every loop that is killed adds its signals to those before. -/
theorem loseRuntime_signals (hub : Hub) {motive : Hub → List Signal → Prop}
    (start : motive hub [])
    (killed : ∀ next signals loop, motive next signals →
      motive (next.killLoop loop).1 (signals ++ (next.killLoop loop).2)) :
    motive hub.loseRuntime.1 hub.loseRuntime.2 := by
  obtain ⟨kill, folds, kills⟩ : ∃ kill : Hub × List Signal → Nat →
      Hub × List Signal,
      hub.loseRuntime = (List.range hub.loops.length).foldl kill (hub, []) ∧
        ∀ state id, kill state id = ((state.1.killLoop id).1,
          state.2 ++ (state.1.killLoop id).2) :=
    ⟨_, rfl, fun _ _ => rfl⟩
  have upTo : ∀ (loops : List Nat) (state : Hub × List Signal),
      motive state.1 state.2 →
        motive (loops.foldl kill state).1 (loops.foldl kill state).2 := by
    intro loops
    induction loops with
    | nil => exact fun _ kept => kept
    | cons loop rest ih =>
        intro state kept
        rw [List.foldl_cons, kills]
        exact ih _ (killed state.1 state.2 loop kept)
  rw [folds]
  exact upTo _ (hub, []) start

end Hub
end AlarmRelay
