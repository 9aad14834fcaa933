import AlarmRelay.Hub.Registrations
import AlarmRelay.Proofs.Hub.Alike

/-!
# What a hub adds to the gauge

A registry is given up exactly when nobody holds it any more, and whatever happens
to a hub changes the gauge of listeners by as much as its registrations change: an
add and a removal that take effect by one, the end of the registry by all that are
left, everything else by nothing.
-/

set_option autoImplicit false

namespace AlarmRelay

/-- What a measurement adds to the gauge of listeners. -/
def MetricChange.rise : MetricChange → Int
  | .listeners delta => delta
  | _ => 0

/-- What some signals add to the gauge of listeners. -/
def Signal.rise (signals : List Signal) : Int :=
  ((metrics signals).map MetricChange.rise).sum

namespace Signal

@[simp] theorem rise_nil : rise [] = 0 := rfl

@[simp] theorem rise_log (record : LogRecord) (signals : List Signal) :
    rise (.log record :: signals) = rise signals := rfl

@[simp] theorem rise_metric (change : MetricChange) (signals : List Signal) :
    rise (.metric change :: signals) = change.rise + rise signals := rfl

@[simp] theorem rise_append (first second : List Signal) :
    rise (first ++ second) = rise first + rise second := by
  simp [rise, metrics]

end Signal

/-! ## The registry -/

namespace Registry

/-- An add raises the gauge by as much as the list grows. -/
theorem rise_add (registry : Registry) (listener : Listener) :
    ((registry.add listener).listeners.length : Int) =
      registry.listeners.length + Signal.rise (registry.addSignals listener) := by
  unfold add addSignals
  cases registry.contains listener with
  | true => simp
  | false => simp [MetricChange.rise]

/-- A removal lowers the gauge by as much as the list shrinks. -/
theorem rise_remove (registry : Registry) (listener : Listener) :
    ((registry.remove listener).listeners.length : Int) =
      registry.listeners.length +
        Signal.rise (registry.removeSignals listener) := by
  unfold remove removeSignals
  cases present : registry.contains listener with
  | true =>
      have nonempty : 0 < registry.listeners.length := by
        obtain ⟨other, member, _⟩ := List.any_eq_true.mp present
        exact List.length_pos_of_mem member
      simp only [List.length_eraseP, show registry.listeners.any
        (fun other => other.isSame listener) = true from present, if_true,
        Signal.rise_log, Signal.rise_metric, Signal.rise_nil, MetricChange.rise]
      omega
  | false =>
      have absent : registry.listeners.any
        (fun other => other.isSame listener) = false := present
      simp [List.length_eraseP, absent]

/-- The end of a registry takes all its listeners off the gauge. -/
theorem rise_release (registry : Registry) :
    Signal.rise registry.releaseSignals = -(registry.listeners.length : Int) := by
  unfold releaseSignals
  cases registry.listeners.length with
  | zero => rfl
  | succ count => simp [MetricChange.rise]

end Registry

namespace Hub

/-- A registry is given up exactly when nobody holds it. -/
def Tidy (hub : Hub) : Prop :=
  hub.released = !hub.isHeld

/-- The registrations of a hub that has not given up its registry. -/
def counted (hub : Hub) : Nat :=
  if hub.released then 0 else hub.registry.listeners.length

/-- What happened leaves the hub tidy, and the gauge followed its registrations. -/
structure Booked (hub next : Hub) (signals : List Signal) : Prop where
  tidy : next.Tidy
  rise : (next.counted : Int) = hub.counted + Signal.rise signals

theorem counted_congr (hub next : Hub) (released : next.released = hub.released)
    (listeners : next.registry.listeners = hub.registry.listeners) :
    next.counted = hub.counted := by
  rw [counted, counted, released, listeners]

theorem isHeld_eq_false (hub : Hub) :
    hub.isHeld = false ↔ hub.closed = true ∧ hub.operations = [] ∧
      ∀ loop ∈ hub.loops, loop.isFinished = true := by
  simp [isHeld, and_assoc]

/-! ## Reclaiming -/

theorem loops_disown (hub : Hub) :
    (∀ loop ∈ hub.disown.loops, loop.isFinished = true) ↔
      ∀ loop ∈ hub.loops, loop.isFinished = true := by
  unfold disown
  split
  · rfl
  · rename_i id owned
    simp only [updateLoop, List.mem_iff_getElem?, List.getElem?_modify]
    constructor
    · rintro all loop ⟨place, found⟩
      have here := all (if id = place then loop.cancel else loop)
        ⟨place, by rw [found]; split <;> rfl⟩
      split at here <;> exact here
    · rintro all loop ⟨place, found⟩
      obtain ⟨before, present, rfl⟩ := Option.map_eq_some_iff.mp found
      have here := all before ⟨place, present⟩
      split <;> exact here

/-- Once every loop is over, all operations are those of callers. -/
theorem callerOperations_finished (hub : Hub)
    (finished : ∀ loop ∈ hub.loops, loop.isFinished = true) :
    hub.callerOperations = hub.inFlight := by
  rw [callerOperations, inFlight, List.filter_eq_self]
  intro id _
  rw [Bool.not_eq_true', List.any_eq_false]
  intro loop member ticking
  have done := finished loop member
  unfold SnapshotLoop.isFinished at done
  unfold SnapshotLoop.isTicking at ticking
  cases phase : loop.phase <;> simp_all

/-- Reclaiming tidies up, unless the registry was given up too early before. -/
theorem tidy_reclaim (hub : Hub)
    (early : hub.released = true → hub.isHeld = false) :
    hub.reclaim.1.Tidy := by
  unfold reclaim
  split
  · rename_i idle
    simp only [Bool.and_eq_true, Bool.not_eq_true', List.isEmpty_iff] at idle
    obtain ⟨⟨closed, kept⟩, callers⟩ := idle
    have frame : hub.disown.closed = hub.closed ∧
        hub.disown.released = hub.released ∧
        hub.disown.operations = hub.operations := by
      unfold disown
      split <;> exact ⟨rfl, rfl, rfl⟩
    obtain ⟨sameClosed, sameReleased, sameOperations⟩ := frame
    dsimp only
    split
    · rename_i finished
      rw [List.all_eq_true] at finished
      have names := hub.callerOperations_finished
        (hub.loops_disown.mp finished)
      rw [names, inFlight, List.map_eq_nil_iff] at callers
      have unheld : hub.disown.isHeld = false := hub.disown.isHeld_eq_false.mpr
        ⟨sameClosed.trans closed, sameOperations.trans callers, finished⟩
      have same : { hub.disown with released := true }.isHeld =
        hub.disown.isHeld := rfl
      rw [Tidy, same, unheld]
      rfl
    · rename_i running
      have held : hub.disown.isHeld = true := by
        rw [← Bool.not_eq_false, isHeld_eq_false]
        rintro ⟨_, _, finished⟩
        exact running (List.all_eq_true.mpr finished)
      rw [Tidy, sameReleased, kept, held]
      rfl
  · rename_i busy
    cases given : hub.released with
    | true => rw [Tidy, given, early given]; rfl
    | false =>
        have held : hub.isHeld = true := by
          rw [← Bool.not_eq_false, isHeld_eq_false]
          rintro ⟨closed, nobody, _⟩
          exact busy (by simp [closed, given, callerOperations, nobody])
        rw [Tidy, given, held]
        rfl

/-- Reclaiming takes off the gauge what it gives up. -/
theorem rise_reclaim (hub : Hub) :
    (hub.reclaim.1.counted : Int) =
      hub.counted + Signal.rise hub.reclaim.2 := by
  have frame : hub.disown.released = hub.released ∧
      hub.disown.registry = hub.registry := by
    unfold disown
    split <;> exact ⟨rfl, rfl⟩
  obtain ⟨sameReleased, sameRegistry⟩ := frame
  unfold reclaim
  split
  · rename_i idle
    simp only [Bool.and_eq_true, Bool.not_eq_true'] at idle
    dsimp only
    split
    · rw [Registry.rise_release]
      simp [counted, idle.1.2, sameRegistry]
    · simp [counted, sameReleased, sameRegistry]
  · simp

theorem booked_reclaim (hub next : Hub) (signals : List Signal)
    (early : next.released = true → next.isHeld = false)
    (rise : (next.counted : Int) = hub.counted + Signal.rise signals) :
    Booked hub next.reclaim.1 (signals ++ next.reclaim.2) where
  tidy := next.tidy_reclaim early
  rise := by
    rw [next.rise_reclaim, rise, Signal.rise_append, add_assoc]

/-- A hub whose registry is still held goes on with the listeners that it has. -/
theorem booked_held (hub next : Hub) (signals : List Signal)
    (kept : hub.released = false) (released : next.released = hub.released)
    (listeners : next.registry.listeners = hub.registry.listeners)
    (held : next.isHeld = true) (still : Signal.rise signals = 0) :
    Booked hub next signals where
  tidy := by
    rw [Tidy, released, kept, held]
    rfl
  rise := by
    rw [hub.counted_congr next released listeners, still, add_zero]

theorem released_open (hub : Hub) (tidy : hub.Tidy)
    (isOpen : hub.closed = false) : hub.released = false := by
  rw [Tidy] at tidy
  simp [tidy, isHeld, isOpen]

theorem held_busy (hub : Hub) (id : OperationId) (operation : Operation)
    (found : hub.operation? id = some operation) : hub.isHeld = true := by
  rw [← Bool.not_eq_false, isHeld_eq_false]
  rintro ⟨_, nobody, _⟩
  simp [operation?, nobody] at found

theorem released_busy (hub : Hub) (tidy : hub.Tidy) (id : OperationId)
    (operation : Operation) (found : hub.operation? id = some operation) :
    hub.released = false := by
  rw [Tidy, hub.held_busy id operation found] at tidy
  exact tidy

theorem held_looping (hub : Hub) (id : Nat) (loop : SnapshotLoop)
    (found : hub.loops[id]? = some loop) (running : loop.isFinished = false) :
    hub.isHeld = true := by
  rw [← Bool.not_eq_false, isHeld_eq_false]
  rintro ⟨_, _, finished⟩
  rw [finished loop (List.mem_of_getElem? found)] at running
  cases running

theorem released_looping (hub : Hub) (tidy : hub.Tidy) (id : Nat)
    (loop : SnapshotLoop) (found : hub.loops[id]? = some loop)
    (running : loop.isFinished = false) : hub.released = false := by
  rw [Tidy, hub.held_looping id loop found running] at tidy
  exact tidy

/-! ## Steps of operations -/

/-- An operation that concludes leaves the gauge where its own signals put it. -/
theorem booked_conclude (hub : Hub) (registry : Registry) (id : OperationId)
    (signals : List Signal) (reply : Reply) (kept : hub.released = false)
    (rise : (registry.listeners.length : Int) =
      hub.registry.listeners.length + Signal.rise signals) :
    Booked hub
      (conclude { hub with registry := registry } id signals reply).hub
      (conclude { hub with registry := registry } id signals reply).signals := by
  have before : hub.counted = hub.registry.listeners.length := by
    simp [counted, kept]
  have after : ({ hub with registry := registry }.forget id).counted =
      registry.listeners.length := by
    simp [counted, forget, kept, Registry.leave]
  have early : ({ hub with registry := registry }.forget id).released = true →
      ({ hub with registry := registry }.forget id).isHeld = false := by
    intro given
    exact absurd (kept.symm.trans given) Bool.false_ne_true
  exact hub.booked_reclaim _ signals early (by rw [before, after, rise])

theorem rise_callSignals (delivery : Delivery) (cause : String)
    (listener : Listener) (outcome : CallOutcome) :
    Signal.rise (FanOut.callSignals delivery cause listener outcome) = 0 := by
  unfold FanOut.callSignals
  split <;> rfl

/-- An operation in flight that moves on keeps the registry held. -/
theorem booked_moves (hub : Hub) (tidy : hub.Tidy) (registry : Registry)
    (id : OperationId) (operation next : Operation) (signals : List Signal)
    (found : hub.operation? id = some operation)
    (listeners : registry.listeners = hub.registry.listeners)
    (still : Signal.rise signals = 0) :
    Booked hub ({ hub with registry := registry }.putOperation id next)
      signals := by
  refine hub.booked_held _ signals (hub.released_busy tidy id operation found) rfl
    listeners ?_ still
  refine held_busy _ id next ?_
  rw [operation?_putOperation, if_pos rfl]
  exact congrArg (Option.map fun _ => next) found

theorem booked_advance (hub : Hub) (id : OperationId) (step : Progress)
    (tidy : hub.Tidy) (advanced : hub.advance id = some step) :
    Booked hub step.hub step.signals := by
  obtain ⟨operation, found⟩ := hub.advance_operation id step advanced
  have kept := hub.released_busy tidy id operation found
  have quiet : ∀ signals reply, Signal.rise signals = 0 →
      Booked hub (hub.conclude id signals reply).hub
        (hub.conclude id signals reply).signals := fun signals reply still =>
    hub.booked_conclude hub.registry id signals reply kept
      (by rw [still, add_zero])
  have moves : ∀ next, Booked hub (hub.putOperation id next) [] := fun next =>
    hub.booked_moves tidy hub.registry id operation next [] found rfl rfl
  unfold advance at advanced
  rw [found] at advanced
  cases operation with
  | add listener =>
      dsimp only at advanced
      split at advanced
      · cases advanced
        exact hub.booked_conclude _ id _ _ kept (hub.registry.rise_add listener)
      · cases advanced
  | remove listener =>
      dsimp only at advanced
      split at advanced
      · cases advanced
        exact hub.booked_conclude _ id _ _ kept
          (hub.registry.rise_remove listener)
      · cases advanced
  | count | isEmpty | listeners =>
      dsimp only at advanced
      split at advanced
      · cases advanced
        exact quiet _ _ rfl
      · cases advanced
  | borrow => cases advanced
  | deliver delivery cause fanOut =>
      dsimp only at advanced
      split at advanced
      · cases advanced
      · cases advanced
        exact moves _
      · cases advanced
        exact quiet _ _ rfl
  | tick phase =>
      cases phase with
      | checking =>
          dsimp only at advanced
          split at advanced
          · split at advanced
            · cases advanced
              exact quiet _ _ rfl
            · cases advanced
              exact hub.booked_moves tidy _ id _ _ [] found rfl rfl
          · cases advanced
      | scanning => cases advanced
      | delivering alarms fanOut =>
          dsimp only at advanced
          split at advanced
          · cases advanced
          · cases advanced
            exact moves _
          · cases advanced
            exact quiet _ _ rfl
  | awaitExit loop =>
      dsimp only at advanced
      split at advanced
      · cases advanced
        exact quiet _ _ rfl
      · cases advanced
        exact quiet _ _ rfl
      · cases advanced

theorem rise_answerCall (operation : Operation) (outcome : CallOutcome) :
    Signal.rise (operation.answerCall outcome).2 = 0 := by
  have fanOut : ∀ delivery cause (point : FanOut),
      Signal.rise (point.answer delivery cause outcome).2 = 0 := by
    intro delivery cause point
    unfold FanOut.answer
    split
    · exact rise_callSignals delivery cause _ outcome
    · rfl
  cases operation with
  | deliver delivery cause point => exact fanOut delivery cause point
  | tick phase =>
      cases phase with
      | delivering alarms point => exact fanOut _ _ point
      | checking | scanning => rfl
  | _ => rfl

theorem booked_answerCall (hub : Hub) (id : OperationId) (outcome : CallOutcome)
    (operation : Operation) (tidy : hub.Tidy)
    (found : hub.operation? id = some operation) :
    Booked hub (hub.answerCall id outcome).1 (hub.answerCall id outcome).2 := by
  simp only [answerCall, found]
  exact hub.booked_moves tidy hub.registry id operation _ _ found rfl
    (rise_answerCall operation outcome)

theorem booked_answerScan (hub : Hub) (id : OperationId) (outcome : ScanOutcome)
    (tidy : hub.Tidy)
    (scanning : hub.operation? id = some (.tick .scanning)) :
    Booked hub (hub.answerScan id outcome).hub
      (hub.answerScan id outcome).signals := by
  have kept := hub.released_busy tidy id _ scanning
  cases outcome with
  | alarms alarms =>
      simp only [answerScan, scanning]
      exact hub.booked_moves tidy (hub.registry.request id .shared) id _ _ _
        scanning rfl rfl
  | failed error =>
      simp only [answerScan, scanning]
      exact hub.booked_conclude hub.registry id _ _ kept (add_zero _).symm
  | panicked payload =>
      simp only [answerScan, scanning]
      exact hub.booked_conclude hub.registry id _ _ kept (add_zero _).symm

/-! ## Steps of loops -/

theorem booked_finishLoop (hub : Hub) (id : LoopId) (result : LoopEnd)
    (tidy : hub.Tidy) :
    Booked hub (hub.finishLoop id result).1 (hub.finishLoop id result).2 := by
  have whole := hub.booked_reclaim
    (hub.updateLoop id (SnapshotLoop.enter (.finished result))) []
    (by
      intro given
      have unheld : hub.isHeld = false := by
        rw [Tidy, show hub.released = true from given] at tidy
        simpa using tidy.symm
      obtain ⟨closed, nobody, finished⟩ := hub.isHeld_eq_false.mp unheld
      rw [isHeld_eq_false]
      refine ⟨closed, nobody, ?_⟩
      intro loop member
      obtain ⟨place, found⟩ := List.mem_iff_getElem?.mp member
      simp only [updateLoop, List.getElem?_modify] at found
      obtain ⟨before, present, rfl⟩ := Option.map_eq_some_iff.mp found
      split
      · rfl
      · exact finished before (List.mem_of_getElem? present))
    (add_zero _).symm
  exact whole

theorem booked_trans (first second third : Hub) (early late : List Signal)
    (one : Booked first second early) (other : Booked second third late) :
    Booked first third (early ++ late) where
  tidy := other.tidy
  rise := by
    rw [other.rise, one.rise, Signal.rise_append, add_assoc]

theorem booked_refl (hub : Hub) (tidy : hub.Tidy) : Booked hub hub [] :=
  ⟨tidy, (add_zero _).symm⟩

theorem booked_abandon (hub : Hub) (id : OperationId)
    (kept : hub.released = false) :
    Booked hub (hub.abandon id).1 (hub.abandon id).2 :=
  hub.booked_conclude hub.registry id [] .stopped kept (add_zero _).symm

theorem booked_advanceLoop (hub : Hub) (now : Instant) (id : LoopId)
    (result : Hub × List Signal) (tidy : hub.Tidy)
    (advanced : hub.advanceLoop now id = some result) :
    Booked hub result.1 result.2 := by
  unfold advanceLoop at advanced
  split at advanced
  · cases advanced
  · rename_i loop found
    obtain ⟨cancelled, phase⟩ := loop
    have kept := hub.released_looping tidy id _ found
    cases phase with
    | waiting previous =>
        dsimp only at advanced
        split at advanced
        · split at advanced
          · cases advanced
            exact hub.booked_finishLoop id .panicked tidy
          · cases advanced
            refine hub.booked_held _ _ (kept rfl) rfl rfl ?_ rfl
            refine held_looping _ id ⟨cancelled, .idle now 0⟩ ?_ rfl
            simp only [updateLoop, List.getElem?_modify_eq]
            rw [found]
            rfl
        · cases advanced
    | idle origin ticks =>
        dsimp only at advanced
        split at advanced
        · cases advanced
          exact hub.booked_trans _ _ [.log .schedulerStopped] _
            ⟨tidy, (add_zero _).symm⟩ (hub.booked_finishLoop id .exited tidy)
        · split at advanced
          · cases advanced
            refine hub.booked_held _ _ (kept rfl) rfl rfl ?_ rfl
            refine held_looping _ id
              ⟨cancelled, .ticking origin ticks hub.nextOperation⟩ ?_ rfl
            simp only [updateLoop, List.getElem?_modify_eq, begin]
            rw [found]
            rfl
          · cases advanced
    | ticking origin ticks operation =>
        dsimp only at advanced
        obtain ⟨step, stepped, same⟩ := Option.map_eq_some_iff.mp advanced
        cases same
        exact hub.booked_advance operation step tidy stepped
    | finished ended => cases advanced

theorem booked_killLoop (hub : Hub) (id : LoopId) (tidy : hub.Tidy) :
    Booked hub (hub.killLoop id).1 (hub.killLoop id).2 := by
  unfold killLoop
  split
  · exact hub.booked_refl tidy
  · rename_i running
    have kept : hub.released = false := by
      unfold loopFinished at running
      cases found : hub.loops[id]? with
      | none => simp [found] at running
      | some loop =>
          exact hub.released_looping tidy id loop found
            (by simpa [found] using running)
    dsimp only
    cases hub.loopTick? id with
    | none => exact hub.booked_finishLoop id .killed tidy
    | some operation =>
        have dropped := hub.booked_abandon operation kept
        exact hub.booked_trans _ _ _ _ dropped
          (booked_finishLoop _ id .killed dropped.tidy)

theorem booked_loseRuntime (hub : Hub) (tidy : hub.Tidy) :
    Booked hub hub.loseRuntime.1 hub.loseRuntime.2 := by
  apply hub.loseRuntime_signals (hub.booked_refl tidy)
  intro next signals loop booked
  exact hub.booked_trans next _ signals _ booked
    (next.booked_killLoop loop booked.tidy)

/-! ## The events one by one -/

theorem booked_begin (hub : Hub) (tidy : hub.Tidy) (isOpen : hub.closed = false)
    (next : Hub) (signals : List Signal)
    (released : next.released = hub.released)
    (listeners : next.registry.listeners = hub.registry.listeners)
    (closed : next.closed = hub.closed) (still : Signal.rise signals = 0) :
    Booked hub next signals :=
  hub.booked_held next signals (hub.released_open tidy isOpen) released listeners
    (by simp [isHeld, closed, isOpen]) still

theorem booked_react (hub : Hub) (now : Instant) (event : HubEvent)
    (step : Progress) (tidy : hub.Tidy)
    (reacted : hub.react now event = some step) :
    Booked hub step.hub step.signals := by
  cases event with
  | ask request =>
      simp only [react] at reacted
      split at reacted
      · cases reacted
      · rename_i isOpen
        cases reacted
        have still : Signal.rise (hub.ask request).2 = 0 := by
          cases request <;> rfl
        refine hub.booked_begin tidy (by simpa using isOpen) _ _ ?_ ?_ ?_ still
        · rw [ask_hub]
          rfl
        · rw [ask_hub, begin]
          cases request.operation.firstLock <;> rfl
        · rw [ask_hub]
          rfl
  | start inRuntime =>
      simp only [react, start] at reacted
      split at reacted
      · cases reacted
      · rename_i isOpen
        have begins := hub.booked_begin tidy (by simpa using isOpen)
        split at reacted
        · cases reacted
          exact hub.booked_refl tidy
        · rename_i next loop signals started
          cases reacted
          split at started
          · cases started
            exact begins hub _ rfl rfl rfl rfl
          · split at started
            · cases started
            · cases started
              exact begins _ _ rfl rfl rfl rfl
  | stop =>
      simp only [react] at reacted
      split at reacted
      · cases reacted
      · rename_i isOpen
        cases owned : hub.task with
        | none =>
            simp only [stop, owned] at reacted
            cases reacted
            exact hub.booked_refl tidy
        | some loop =>
            simp only [stop, owned] at reacted
            cases reacted
            refine hub.booked_begin tidy (by simpa using isOpen) _ _ ?_ ?_ ?_ rfl
            all_goals
              simp only [begin, disown, owned]
              rfl
  | advance id => exact hub.booked_advance id step tidy reacted
  | answerCall id outcome =>
      simp only [react] at reacted
      split at reacted
      · cases reacted
      · rename_i call inside
        cases reacted
        obtain ⟨operation, rest, report, found, walks⟩ :=
          (hub.call?_fanOut id call.1 call.2).mp inside
        exact hub.booked_answerCall id outcome operation tidy found
  | answerScan id outcome =>
      simp only [react] at reacted
      split at reacted
      · rename_i scanning
        cases reacted
        exact hub.booked_answerScan id outcome tidy
          ((hub.isScanning_iff id).mp scanning)
      · cases reacted
  | abandon id =>
      simp only [react] at reacted
      split at reacted
      · rename_i caller
        cases reacted
        have flying := ((hub.mem_callerOperations id).mp (by simpa using caller)).1
        obtain ⟨operation, found⟩ := (hub.mem_inFlight id).mp flying
        exact hub.booked_abandon id (hub.released_busy tidy id operation found)
      · cases reacted
  | advanceLoop loop =>
      simp only [react] at reacted
      obtain ⟨result, advanced, rfl⟩ := Option.map_eq_some_iff.mp reacted
      exact hub.booked_advanceLoop now loop result tidy advanced
  | loseRuntime =>
      cases reacted
      exact hub.booked_loseRuntime tidy
  | close =>
      simp only [react] at reacted
      split at reacted
      · cases reacted
      · rename_i isOpen
        cases reacted
        have kept := hub.released_open tidy (by simpa using isOpen)
        exact hub.booked_reclaim { hub with closed := true } []
          (fun given => absurd (kept.symm.trans given) Bool.false_ne_true)
          (add_zero _).symm

end Hub
end AlarmRelay
