import AlarmRelay.Hub.Cancellation
import AlarmRelay.Proofs.Hub.Alike

/-!
# Who sees a cancellation

Nobody but a loop between its ticks looks at its cancellation.  So as long as a
loop is inside of a tick, a hub and its counterpart with the cancellation of that
loop made or taken back go through the same events, and they show the same.
-/

set_option autoImplicit false

namespace AlarmRelay.Hub

section

variable (hub : Hub) (loop : Nat) (asked : Bool)

/-! ## The counterpart of a hub -/

theorem withAsked_loops (id : Nat) :
    (hub.withAsked loop asked).loops[id]? =
      (hub.loops[id]?).map fun here =>
        if loop = id then here.asked asked else here := by
  simp only [withAsked, updateLoop, List.getElem?_modify]
  rfl

theorem withAsked_phase (id : Nat) :
    ((hub.withAsked loop asked).loops[id]?).map SnapshotLoop.phase =
      (hub.loops[id]?).map SnapshotLoop.phase := by
  rw [withAsked_loops]
  cases hub.loops[id]? with
  | none => rfl
  | some here =>
      simp only [Option.map_some]
      split <;> rfl

theorem withAsked_loopTick? (id : Nat) :
    (hub.withAsked loop asked).loopTick? id = hub.loopTick? id := by
  simp only [loopTick?, withAsked_phase]

theorem withAsked_loopFinished (id : Nat) :
    (hub.withAsked loop asked).loopFinished id = hub.loopFinished id := by
  rw [loopFinished, loopFinished, withAsked_loops]
  cases hub.loops[id]? with
  | none => rfl
  | some here =>
      simp only [Option.map_some]
      split <;> rfl

theorem withAsked_isRunning :
    (hub.withAsked loop asked).isRunning = hub.isRunning := by
  have task : (hub.withAsked loop asked).task = hub.task := rfl
  simp only [isRunning, task, withAsked_loopFinished]

/-- What is read off the phases of all loops is the same. -/
theorem withAsked_all (view : SnapshotLoop → Bool)
    (blind : ∀ here : SnapshotLoop, view (here.asked asked) = view here) :
    (hub.withAsked loop asked).loops.map view = hub.loops.map view := by
  apply List.ext_getElem?
  intro id
  rw [List.getElem?_map, List.getElem?_map, withAsked_loops]
  cases hub.loops[id]? with
  | none => rfl
  | some here =>
      simp only [Option.map_some]
      split
      · rw [blind]
      · rfl

theorem withAsked_callerOperations :
    (hub.withAsked loop asked).callerOperations = hub.callerOperations := by
  have same : ∀ id, (hub.withAsked loop asked).loops.any
      (fun here => here.isTicking id) =
        hub.loops.any (fun here => here.isTicking id) := by
    intro id
    have views := hub.withAsked_all loop asked (fun here => here.isTicking id)
      (fun _ => rfl)
    simpa only [List.any_map, Function.comp_def] using
      congrArg (List.any · fun found => found) views
  simp only [callerOperations, same]
  rfl

theorem withAsked_allFinished :
    (hub.withAsked loop asked).loops.all SnapshotLoop.isFinished =
      hub.loops.all SnapshotLoop.isFinished := by
  have views := hub.withAsked_all loop asked SnapshotLoop.isFinished (fun _ => rfl)
  simpa only [List.all_map, Function.comp_def] using
    congrArg (List.all · fun found => found) views

/-! ## Steps of the hub -/

theorem withAsked_enter (id : Nat) (phase : LoopPhase) :
    (hub.withAsked loop asked).updateLoop id (SnapshotLoop.enter phase) =
      (hub.updateLoop id (SnapshotLoop.enter phase)).withAsked loop asked := by
  simp only [withAsked, updateLoop]
  congr 1
  by_cases same : loop = id
  · subst same
    rw [List.modify_modify_eq, List.modify_modify_eq]
    rfl
  · exact List.modify_modify_ne _ _ _ same

theorem withAsked_forget (id : OperationId) :
    (hub.withAsked loop asked).forget id =
      (hub.forget id).withAsked loop asked := by
  simp only [withAsked, updateLoop, forget]
  congr 1
  apply List.ext_getElem?
  intro other
  rw [List.getElem?_map, List.getElem?_modify, List.getElem?_modify,
    List.getElem?_map]
  cases hub.loops[other]? with
  | none => rfl
  | some here =>
      obtain ⟨cancelled, phase⟩ := here
      by_cases same : loop = other
      · cases phase with
        | ticking origin ticks current =>
            by_cases hit : current = id
            · simp [same, SnapshotLoop.tickEnded, SnapshotLoop.asked, hit]
            · simp [same, SnapshotLoop.tickEnded, SnapshotLoop.asked, hit]
        | _ => simp [same, SnapshotLoop.tickEnded, SnapshotLoop.asked]
      · simp [same]

theorem withAsked_disown : ∃ later, (hub.withAsked loop asked).disown =
    hub.disown.withAsked loop later := by
  have task : (hub.withAsked loop asked).task = hub.task := rfl
  unfold disown
  rw [task]
  cases hub.task with
  | none => exact ⟨asked, rfl⟩
  | some owned =>
      by_cases same : loop = owned
      · -- The cancellation is made in both.
        subst same
        refine ⟨true, ?_⟩
        simp only [withAsked, updateLoop]
        congr 1
        rw [List.modify_modify_eq, List.modify_modify_eq]
        rfl
      · refine ⟨asked, ?_⟩
        simp only [withAsked, updateLoop]
        congr 1
        exact List.modify_modify_ne _ _ _ same

theorem withAsked_reclaim : ∃ later, (hub.withAsked loop asked).reclaim =
    (hub.reclaim.1.withAsked loop later, hub.reclaim.2) := by
  have closed : (hub.withAsked loop asked).closed = hub.closed := rfl
  have released : (hub.withAsked loop asked).released = hub.released := rfl
  unfold reclaim
  rw [closed, released, withAsked_callerOperations]
  split
  · obtain ⟨later, disowned⟩ := hub.withAsked_disown loop asked
    refine ⟨later, ?_⟩
    simp only [disowned, withAsked_allFinished]
    split
    · rfl
    · rfl
  · exact ⟨asked, rfl⟩

theorem withAsked_finishLoop (id : Nat) (result : LoopEnd) :
    ∃ later, (hub.withAsked loop asked).finishLoop id result =
      ((hub.finishLoop id result).1.withAsked loop later,
        (hub.finishLoop id result).2) := by
  rw [finishLoop, finishLoop, withAsked_enter]
  exact withAsked_reclaim _ loop asked

theorem withAsked_abandon (id : OperationId) :
    ∃ later, (hub.withAsked loop asked).abandon id =
      ((hub.abandon id).1.withAsked loop later, (hub.abandon id).2) := by
  rw [abandon, abandon, withAsked_forget]
  exact withAsked_reclaim _ loop asked

end

section

variable (hub : Hub) (loop : Nat) (asked : Bool)

theorem withAsked_conclude (id : OperationId) (signals : List Signal)
    (reply : Reply) :
    ∃ later, (hub.withAsked loop asked).conclude id signals reply =
      (hub.conclude id signals reply).withAsked loop later := by
  obtain ⟨later, same⟩ := (hub.forget id).withAsked_reclaim loop asked
  refine ⟨later, ?_⟩
  rw [conclude, conclude, withAsked_forget, same]
  rfl

/-- A step that ends in the counterpart of its result. -/
def Mirrors (loop : Nat) (result mirrored : Option Progress) : Prop :=
  ∃ later, mirrored = result.map fun step => step.withAsked loop later

theorem mirrors_none : Mirrors loop none none := ⟨true, rfl⟩

theorem mirrors_when (condition : Bool) (result mirrored : Option Progress)
    (mirrors : Mirrors loop result mirrored) :
    Mirrors loop (if condition then result else none)
      (if condition then mirrored else none) := by
  cases condition with
  | false => exact mirrors_none loop
  | true => exact mirrors

theorem mirrors_conclude (id : OperationId) (signals : List Signal)
    (reply : Reply) :
    Mirrors loop (some (hub.conclude id signals reply))
      (some ((hub.withAsked loop asked).conclude id signals reply)) := by
  obtain ⟨later, same⟩ := hub.withAsked_conclude loop asked id signals reply
  exact ⟨later, congrArg some same⟩

theorem mirrors_step (next : Hub) (signals : List Signal) (reply : Option Reply) :
    Mirrors loop (some ⟨next, signals, reply⟩)
      (some ⟨next.withAsked loop asked, signals, reply⟩) :=
  ⟨asked, rfl⟩

/-- No operation sees whether a loop has been asked to shut down. -/
theorem mirrors_advance (id : OperationId) :
    Mirrors loop (hub.advance id) ((hub.withAsked loop asked).advance id) := by
  have operation : (hub.withAsked loop asked).operation? id = hub.operation? id :=
    rfl
  have registry : (hub.withAsked loop asked).registry = hub.registry := rfl
  have walk : ∀ fanOut, (hub.withAsked loop asked).fanOutStep id fanOut =
      hub.fanOutStep id fanOut := by
    intro fanOut
    cases fanOut with
    | awaitingLock => rfl
    | calling pending report => cases pending <;> rfl
  unfold advance
  rw [operation, registry]
  cases hub.operation? id with
  | none => exact mirrors_none loop
  | some operation =>
      cases operation with
      | add listener =>
          exact mirrors_when loop _ _ _ (mirrors_conclude
            { hub with registry := hub.registry.add listener } loop asked id _ _)
      | remove listener =>
          exact mirrors_when loop _ _ _ (mirrors_conclude
            { hub with registry := hub.registry.remove listener } loop asked id _ _)
      | count =>
          exact mirrors_when loop _ _ _ (hub.mirrors_conclude loop asked id _ _)
      | isEmpty =>
          exact mirrors_when loop _ _ _ (hub.mirrors_conclude loop asked id _ _)
      | listeners =>
          exact mirrors_when loop _ _ _ (hub.mirrors_conclude loop asked id _ _)
      | borrow => exact mirrors_none loop
      | deliver delivery cause fanOut =>
          simp only [walk]
          split
          · exact mirrors_none loop
          · exact mirrors_step loop asked (hub.putOperation id _) _ _
          · exact hub.mirrors_conclude loop asked id _ _
      | tick phase =>
          cases phase with
          | checking =>
              apply mirrors_when
              split
              · exact hub.mirrors_conclude loop asked id _ _
              · exact mirrors_step loop asked
                  ({ hub with registry := hub.registry.leave id }.putOperation id
                    (.tick .scanning)) _ _
          | scanning => exact mirrors_none loop
          | delivering alarms fanOut =>
              simp only [walk]
              split
              · exact mirrors_none loop
              · exact mirrors_step loop asked (hub.putOperation id _) _ _
              · exact hub.mirrors_conclude loop asked id _ _
      | awaitExit awaited =>
          simp only [withAsked_phase]
          cases (hub.loops[awaited]?).map SnapshotLoop.phase with
          | none => exact mirrors_none loop
          | some phase =>
              cases phase with
              | finished result =>
                  cases result <;> exact hub.mirrors_conclude loop asked id _ _
              | _ => exact mirrors_none loop

/-! ## Events -/

theorem withAsked_advanceLoop_other (now : Instant) (id : Nat) (other : loop ≠ id) :
    ∃ later, (hub.withAsked loop asked).advanceLoop now id =
      (hub.advanceLoop now id).map fun result =>
        (result.1.withAsked loop later, result.2) := by
  have found : (hub.withAsked loop asked).loops[id]? = hub.loops[id]? := by
    rw [withAsked_loops]
    cases hub.loops[id]? with
    | none => rfl
    | some here => simp [other]
  have interval : (hub.withAsked loop asked).interval = hub.interval := rfl
  have finishes : ∀ result, ∃ later,
      (hub.withAsked loop asked).finishLoop id result =
        ((hub.finishLoop id result).1.withAsked loop later,
          (hub.finishLoop id result).2) :=
    fun result => hub.withAsked_finishLoop loop asked id result
  unfold advanceLoop
  rw [found, interval]
  cases hub.loops[id]? with
  | none => exact ⟨asked, rfl⟩
  | some here =>
      obtain ⟨cancelled, phase⟩ := here
      cases phase with
      | waiting previous =>
          have finished : (hub.withAsked loop asked).loopFinished =
              hub.loopFinished := funext (hub.withAsked_loopFinished loop asked)
          simp only [finished]
          split
          · split
            · obtain ⟨later, same⟩ := finishes .panicked
              exact ⟨later, congrArg some same⟩
            · refine ⟨asked, ?_⟩
              rw [withAsked_enter]
              rfl
          · exact ⟨asked, rfl⟩
      | idle origin ticks =>
          dsimp only
          split
          · obtain ⟨later, same⟩ := finishes .exited
            exact ⟨later, by rw [same]; rfl⟩
          · split
            · refine ⟨asked, ?_⟩
              have begun : ((hub.withAsked loop asked).begin (.tick .checking)).1 =
                  (hub.begin (.tick .checking)).1.withAsked loop asked := rfl
              have name : ((hub.withAsked loop asked).begin (.tick .checking)).2 =
                  (hub.begin (.tick .checking)).2 := rfl
              rw [begun, name, withAsked_enter]
              rfl
            · exact ⟨asked, rfl⟩
      | ticking origin ticks operation =>
          obtain ⟨later, same⟩ := hub.mirrors_advance loop asked operation
          refine ⟨later, ?_⟩
          dsimp only
          rw [same]
          cases hub.advance operation with
          | none => rfl
          | some step => rfl
      | finished result => exact ⟨asked, rfl⟩

/-- Inside of a tick, the loop itself does not look at its cancellation either. -/
theorem withAsked_advanceLoop (now : Instant) (id : Nat) (tick : OperationId)
    (inside : hub.loopTick? loop = some tick) :
    ∃ later, (hub.withAsked loop asked).advanceLoop now id =
      (hub.advanceLoop now id).map fun result =>
        (result.1.withAsked loop later, result.2) := by
  by_cases other : loop = id
  · subst other
    rw [loopTick?_eq] at inside
    obtain ⟨⟨cancelled, phase⟩, found, ticking⟩ := Option.bind_eq_some_iff.mp inside
    cases phase with
    | ticking origin ticks operation =>
        have mirrored : (hub.withAsked loop asked).loops[loop]? =
            some ⟨asked, .ticking origin ticks operation⟩ := by
          rw [withAsked_loops, found]
          simp [SnapshotLoop.asked]
        obtain ⟨later, same⟩ := hub.mirrors_advance loop asked operation
        refine ⟨later, ?_⟩
        simp only [advanceLoop, found, mirrored]
        rw [same]
        cases hub.advance operation with
        | none => rfl
        | some step => rfl
    | _ => cases ticking
  · exact hub.withAsked_advanceLoop_other loop asked now id other

theorem withAsked_killLoop (id : Nat) :
    ∃ later, (hub.withAsked loop asked).killLoop id =
      ((hub.killLoop id).1.withAsked loop later, (hub.killLoop id).2) := by
  unfold killLoop
  rw [withAsked_loopFinished, withAsked_loopTick?]
  split
  · exact ⟨asked, rfl⟩
  · cases hub.loopTick? id with
    | none =>
        obtain ⟨later, same⟩ := hub.withAsked_finishLoop loop asked id .killed
        exact ⟨later, by simp only [same]⟩
    | some operation =>
        obtain ⟨between, dropped⟩ := hub.withAsked_abandon loop asked operation
        obtain ⟨later, same⟩ := (hub.abandon operation).1.withAsked_finishLoop loop
          between id .killed
        exact ⟨later, by simp only [dropped, same]⟩

end

theorem withAsked_loseRuntime (hub : Hub) (loop : Nat) (asked : Bool) :
    ∃ later, (hub.withAsked loop asked).loseRuntime =
      (hub.loseRuntime.1.withAsked loop later, hub.loseRuntime.2) := by
  have length : (hub.withAsked loop asked).loops.length = hub.loops.length := by
    simp [withAsked, updateLoop]
  unfold loseRuntime
  rw [length]
  generalize List.range hub.loops.length = ids
  generalize ([] : List Signal) = shown
  induction ids generalizing hub asked shown with
  | nil => exact ⟨asked, rfl⟩
  | cons id rest ih =>
      obtain ⟨between, killed⟩ := hub.withAsked_killLoop loop asked id
      simp only [List.foldl_cons, killed]
      exact ih (hub.killLoop id).1 between (by simp [withAsked, updateLoop]) _

section

variable (hub : Hub) (loop : Nat) (asked : Bool)

theorem mirrors_start (inRuntime : Bool) (here : SnapshotLoop)
    (found : hub.loops[loop]? = some here) (now : Instant) :
    Mirrors loop (hub.react now (.start inRuntime))
      ((hub.withAsked loop asked).react now (.start inRuntime)) := by
  have closed : (hub.withAsked loop asked).closed = hub.closed := rfl
  simp only [react, start, closed, withAsked_isRunning]
  cases hub.closed with
  | true => exact mirrors_none loop
  | false =>
      cases hub.isRunning with
      | true => exact ⟨asked, rfl⟩
      | false =>
          cases inRuntime with
          | false => exact ⟨asked, rfl⟩
          | true =>
              -- The new loop is spawned behind the one whose cancellation differs.
              have spawned : hub.loops.modify loop (SnapshotLoop.asked asked) ++
                    [SnapshotLoop.spawned hub.latest] =
                  (hub.loops ++ [SnapshotLoop.spawned hub.latest]).modify loop
                    (SnapshotLoop.asked asked) := by
                have within := (List.getElem?_eq_some_iff.mp found).1
                apply List.ext_getElem?
                intro id
                simp only [List.getElem?_modify, List.getElem?_append,
                  List.length_modify]
                split
                · rfl
                · have other : loop ≠ id := by omega
                  simp [other]
              refine ⟨asked, ?_⟩
              simp [spawnLoop, spawned, Progress.withAsked, withAsked, updateLoop]

theorem mirrors_stop (now : Instant) :
    Mirrors loop (hub.react now .stop)
      ((hub.withAsked loop asked).react now .stop) := by
  have closed : (hub.withAsked loop asked).closed = hub.closed := rfl
  have task : (hub.withAsked loop asked).task = hub.task := rfl
  obtain ⟨later, disowned⟩ := hub.withAsked_disown loop asked
  simp only [react, stop, closed, task]
  cases hub.closed with
  | true => exact mirrors_none loop
  | false =>
      cases hub.task with
      | none => exact ⟨asked, rfl⟩
      | some owned =>
          refine ⟨later, ?_⟩
          simp only [disowned]
          rfl

theorem mirrors_close (now : Instant) :
    Mirrors loop (hub.react now .close)
      ((hub.withAsked loop asked).react now .close) := by
  have closed : (hub.withAsked loop asked).closed = hub.closed := rfl
  simp only [react, closed]
  cases hub.closed with
  | true => exact mirrors_none loop
  | false =>
      obtain ⟨later, same⟩ := withAsked_reclaim { hub with closed := true } loop asked
      have shape : (hub.withAsked loop asked).close =
          (({ hub with closed := true } : Hub).withAsked loop asked).reclaim := rfl
      refine ⟨later, ?_⟩
      rw [shape, same]
      rfl

theorem withAsked_loopReply? (id : Nat) :
    (hub.withAsked loop asked).loopReply? id = hub.loopReply? id := by
  unfold loopReply?
  rw [withAsked_loopTick?]
  cases hub.loopTick? id with
  | none => rfl
  | some operation =>
      obtain ⟨_, mirrored⟩ := hub.mirrors_advance loop asked operation
      simp only [Option.bind_some, mirrored]
      cases hub.advance operation with
      | none => rfl
      | some step => rfl

/-- As long as a loop is inside of a tick, no event tells a hub from its
counterpart. -/
theorem mirrors_react (now : Instant) (event : HubEvent) (tick : OperationId)
    (inside : hub.loopTick? loop = some tick) :
    Mirrors loop (hub.react now event)
      ((hub.withAsked loop asked).react now event) := by
  obtain ⟨here, found, _⟩ := Option.bind_eq_some_iff.mp (hub.loopTick?_eq loop ▸ inside)
  have closed : (hub.withAsked loop asked).closed = hub.closed := rfl
  have operation : (hub.withAsked loop asked).operation? = hub.operation? := rfl
  have call : (hub.withAsked loop asked).call? = hub.call? := rfl
  have scanning : (hub.withAsked loop asked).isScanning = hub.isScanning := rfl
  cases event with
  | ask request =>
      simp only [react, closed]
      split
      · exact mirrors_none loop
      · refine ⟨asked, ?_⟩
        cases request <;> rfl
  | start inRuntime => exact hub.mirrors_start loop asked inRuntime here found now
  | stop => exact hub.mirrors_stop loop asked now
  | advance id => exact hub.mirrors_advance loop asked id
  | answerCall id outcome =>
      simp only [react, call]
      cases hub.call? id with
      | none => exact mirrors_none loop
      | some pair =>
          refine ⟨asked, ?_⟩
          simp only [answerCall, operation]
          cases hub.operation? id with
          | none => rfl
          | some operation => rfl
  | answerScan id outcome =>
      simp only [react, scanning]
      apply mirrors_when
      simp only [answerScan, operation]
      split
      · cases outcome with
        | alarms alarms => exact ⟨asked, rfl⟩
        | failed error => exact hub.mirrors_conclude loop asked id _ _
        | panicked payload => exact hub.mirrors_conclude loop asked id _ _
      · exact ⟨asked, rfl⟩
  | abandon id =>
      simp only [react, withAsked_callerOperations]
      apply mirrors_when
      obtain ⟨later, same⟩ := hub.withAsked_abandon loop asked id
      exact ⟨later, by rw [same]; rfl⟩
  | advanceLoop id =>
      obtain ⟨later, same⟩ := hub.withAsked_advanceLoop loop asked now id tick inside
      refine ⟨later, ?_⟩
      simp only [react, same, withAsked_loopReply?]
      cases hub.advanceLoop now id with
      | none => rfl
      | some result => rfl
  | loseRuntime =>
      obtain ⟨later, same⟩ := hub.withAsked_loseRuntime loop asked
      exact ⟨later, by simp only [react, same]; rfl⟩
  | close => exact hub.mirrors_close loop asked now

theorem withAsked_marks (event : HubEvent) (step : Progress) (later : Bool) :
    (hub.withAsked loop asked).marks event (step.withAsked loop later) =
      hub.marks event step := by
  have subject : (hub.withAsked loop asked).subject? event = hub.subject? event := by
    cases event with
    | advanceLoop id => exact hub.withAsked_loopTick? loop asked id
    | _ => rfl
  unfold marks
  rw [subject]
  rfl

/-! ## Runs -/

/-- As long as a loop is inside of a tick, a hub and its counterpart go through the
same events and show the same. -/
theorem withAsked_run (tick : OperationId) (timeline : Timeline)
    (inside : hub.staysInside loop tick timeline = true) :
    (∃ later, (hub.withAsked loop asked).run timeline =
      (hub.run timeline).map fun final => final.withAsked loop later) ∧
    (hub.withAsked loop asked).journal timeline = hub.journal timeline ∧
    (hub.withAsked loop asked).signals timeline = hub.signals timeline := by
  induction timeline generalizing hub asked with
  | nil => exact ⟨⟨asked, rfl⟩, rfl, rfl⟩
  | cons entry rest ih =>
      obtain ⟨now, event⟩ := entry
      simp only [staysInside, Bool.and_eq_true, beq_iff_eq] at inside
      obtain ⟨here, onward⟩ := inside
      obtain ⟨later, mirrored⟩ := hub.mirrors_react loop asked now event tick here
      cases reacted : hub.react now event with
      | none =>
          rw [reacted] at mirrored
          simp only [run, journal, signals, observe, reacted, mirrored,
            Option.map_none]
          exact ⟨⟨asked, trivial⟩, trivial, trivial⟩
      | some step =>
          rw [reacted] at mirrored onward
          obtain ⟨final, marks, shown⟩ := ih step.hub later onward
          refine ⟨?_, ?_, ?_⟩
          · simpa only [run, reacted, mirrored, Option.map_some,
              Progress.withAsked] using final
          · simp only [journal, observe, reacted, mirrored, Option.map_some,
              withAsked_marks]
            exact congrArg _ marks
          · simp only [signals, observe, reacted, mirrored, Option.map_some]
            exact congrArg _ shown

end

end AlarmRelay.Hub
