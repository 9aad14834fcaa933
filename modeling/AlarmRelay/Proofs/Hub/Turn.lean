import AlarmRelay.Proofs.Hub.Alike

/-!
# What one event does to the operations in flight

Every event touches the operations of a hub in at most one way: one begins, one
answers, one moves on, one is dropped by its caller, or the ticks of killed loops
are dropped.  `Turn` lists these ways up to `Alike`, with everything that guards
them, and `react_turn` shows that there is no other.
-/

set_option autoImplicit false

namespace AlarmRelay.Hub

/-- The events that let the operation `id` take its next step. -/
inductive Drives (hub : Hub) : HubEvent → OperationId → Prop where
  | caller (id : OperationId) : Drives hub (.advance id) id
  | loop (loop : LoopId) (id : OperationId)
      (ticking : hub.loopTick? loop = some id) :
      Drives hub (.advanceLoop loop) id

/-- The ways in which an event can touch the operations of a hub. -/
inductive Turn (hub : Hub) (step : Progress) : HubEvent → Prop where
  | rests (event : HubEvent) (same : step.hub.Alike hub)
      (idle : hub.subject? event = none) (unheard : hub.endMarks event = []) :
      Turn hub step event
  | asks (request : Request)
      (same : step.hub.Alike (hub.begin request.operation).1)
      (silent : step.reply = none) :
      Turn hub step (.ask request)
  /-- A stop takes the owned loop and begins to wait for it. -/
  | stops (loop : LoopId) (owned : hub.task = some loop)
      (same : step.hub.Alike (hub.begin (.awaitExit loop)).1)
      (silent : step.reply = none) :
      Turn hub step .stop
  /-- A loop that nobody asked to shut down begins a tick. -/
  | ticks (loop : LoopId) (first last : List OperationId)
      (live : hub.isLive loop = true)
      (registry : step.hub.registry =
        (hub.begin (.tick .checking)).1.registry)
      (operations : step.hub.operations =
        (hub.begin (.tick .checking)).1.operations)
      (nextOperation : step.hub.nextOperation = hub.nextOperation + 1)
      (before : hub.scheduledTicks = first ++ last)
      (after : step.hub.scheduledTicks = first ++ hub.nextOperation :: last)
      (idle : hub.loopTick? loop = none) (silent : step.reply = none) :
      Turn hub step (.advanceLoop loop)
  | answers (event : HubEvent) (id : OperationId) (operation : Operation)
      (registry : Registry) (reply : Reply)
      (drives : hub.Drives event id)
      (found : hub.operation? id = some operation)
      (answer : Answer hub id operation registry reply)
      (same : step.hub.Alike ({ hub with registry := registry }.forget id))
      (replied : step.reply = some reply) :
      Turn hub step event
  /-- A tick whose source scan failed answers and is gone. -/
  | fails (id : OperationId) (outcome : ScanOutcome) (message : String)
      (found : hub.operation? id = some (.tick .scanning))
      (same : step.hub.Alike (hub.forget id))
      (replied : step.reply = some (.tick (.failed message))) :
      Turn hub step (.answerScan id outcome)
  /-- A tick that found listeners gives up the lock and reads the source. -/
  | scans (event : HubEvent) (id : OperationId) (drives : hub.Drives event id)
      (found : hub.operation? id = some (.tick .checking))
      (held : hub.registry.lock.holdsShared id = true)
      (somebody : hub.registry.listeners ≠ [])
      (same : step.hub.Alike
        ({ hub with registry := hub.registry.leave id }.putOperation id
          (.tick .scanning)))
      (silent : step.reply = none) :
      Turn hub step event
  /-- The source answers a tick, which asks for the lock again. -/
  | fetches (id : OperationId) (alarms : List Alarm)
      (found : hub.operation? id = some (.tick .scanning))
      (same : step.hub.Alike
        ({ hub with registry := hub.registry.request id .shared }.putOperation
          id (.tick (.delivering alarms .awaitingLock))))
      (silent : step.reply = none) :
      Turn hub step (.answerScan id (.alarms alarms))
  /-- A fan-out that got the lock begins its walk. -/
  | walks (event : HubEvent) (id : OperationId) (operation next : Operation)
      (delivery : Delivery) (drives : hub.Drives event id)
      (found : hub.operation? id = some operation)
      (held : hub.registry.lock.holdsShared id = true)
      (before : operation.fanOut? = some (delivery, .awaitingLock))
      (after : next.fanOut? =
        some (delivery, .calling hub.registry.listeners .empty))
      (same : step.hub.Alike (hub.putOperation id next))
      (silent : step.reply = none) :
      Turn hub step event
  /-- A listener answers a fan-out, which goes on to the next one. -/
  | hears (id : OperationId) (operation next : Operation)
      (delivery : Delivery) (listener : Listener) (rest : List Listener)
      (report : DispatchReport) (outcome : CallOutcome)
      (found : hub.operation? id = some operation)
      (before : operation.fanOut? =
        some (delivery, .calling (listener :: rest) report))
      (after : next.fanOut? =
        some (delivery, .calling rest (report.record outcome)))
      (same : step.hub.Alike (hub.putOperation id next))
      (silent : step.reply = none) :
      Turn hub step (.answerCall id outcome)
  | drops (id : OperationId) (caller : id ∈ hub.callerOperations)
      (same : step.hub.Alike (hub.forget id)) (silent : step.reply = none) :
      Turn hub step (.abandon id)
  | loses (ids : List OperationId) (ticking : ∀ id ∈ ids, id ∈ hub.scheduledTicks)
      (same : step.hub.Alike (ids.foldl forget hub))
      (silent : step.reply = none) :
      Turn hub step .loseRuntime

theorem drives_subject (hub : Hub) (event : HubEvent) (id : OperationId)
    (drives : hub.Drives event id) :
    hub.subject? event = some id ∧ hub.endMarks event = [] := by
  cases drives with
  | caller => exact ⟨rfl, rfl⟩
  | loop loop _ ticking => exact ⟨ticking, rfl⟩

/-! ## The events one by one -/

/-- A step of an operation, whoever takes it. -/
theorem advance_turn (hub : Hub) (event : HubEvent) (id : OperationId)
    (advanced step : Progress) (drives : hub.Drives event id)
    (stepped : hub.advance id = some advanced)
    (sameHub : step.hub = advanced.hub) (sameReply : step.reply = advanced.reply) :
    Turn hub step event := by
  obtain ⟨operation, found⟩ := advance_operation hub id advanced stepped
  have shape := advance_cases hub id operation advanced found stepped
  cases shape with
  | answers _ registry reply _ answer result replied =>
      refine .answers event id operation registry reply drives found answer ?_
        (sameReply.trans replied)
      rw [sameHub, result]
      exact alike_reclaim _
  | scans _ held somebody result silent =>
      refine .scans event id drives found held somebody ?_
        (sameReply.trans silent)
      rw [sameHub, result]
      exact alike_refl _
  | walks _ next delivery _ held before after result silent =>
      refine .walks event id operation next delivery drives found held before
        after ?_ (sameReply.trans silent)
      rw [sameHub, result]
      exact alike_refl _

/-- A loop enters its first tick or its next one. -/
theorem begins_turn (hub : Hub) (loop ticks : Nat)
    (origin : Instant) (step : Progress)
    (found : hub.loops[loop]? = some ⟨false, .idle origin ticks⟩)
    (result : step.hub = (hub.begin (.tick .checking)).1.updateLoop loop
      (SnapshotLoop.enter (.ticking origin ticks hub.nextOperation)))
    (silent : step.reply = none) : Turn hub step (.advanceLoop loop) := by
  obtain ⟨within, here⟩ := List.getElem?_eq_some_iff.mp found
  have split : hub.loops = hub.loops.take loop ++
      ⟨false, .idle origin ticks⟩ :: hub.loops.drop (loop + 1) := by
    rw [← here, List.getElem_cons_drop, List.take_append_drop]
  have calm : hub.loopTick? loop = none := by
    simp [loopTick?_eq, found, SnapshotLoop.tick?]
  refine .ticks loop ((hub.loops.take loop).filterMap SnapshotLoop.tick?)
    ((hub.loops.drop (loop + 1)).filterMap SnapshotLoop.tick?) ?_ ?_ ?_ ?_ ?_ ?_
    calm silent
  · simp [isLive, found, SnapshotLoop.isLive, SnapshotLoop.isFinished]
  · rw [result]
    rfl
  · rw [result]
    rfl
  · rw [result]
    rfl
  · rw [scheduledTicks]
    conv => lhs; rw [split]
    simp [List.filterMap_append, List.filterMap_cons, SnapshotLoop.tick?]
  · rw [result]
    simp only [scheduledTicks, updateLoop, begin]
    rw [List.modify_eq_take_cons_drop within, here]
    simp [List.filterMap_append, SnapshotLoop.enter, SnapshotLoop.tick?]

theorem advanceLoop_turn (hub : Hub) (now : Instant) (loop : Nat)
    (step : Progress)
    (reacted : hub.react now (.advanceLoop loop) = some step) :
    Turn hub step (.advanceLoop loop) := by
  simp only [react] at reacted
  obtain ⟨result, advanced, rfl⟩ := Option.map_eq_some_iff.mp reacted
  have calmReply : hub.loopTick? loop = none → hub.loopReply? loop = none := by
    intro calm
    simp [loopReply?, calm]
  have shape := hub.advanceLoop_cases now loop result advanced
  generalize result.1 = next at shape ⊢
  cases shape with
  | enters cancelled previous found free timed =>
      have calm : hub.loopTick? loop = none := by
        simp [loopTick?_eq, found, SnapshotLoop.tick?]
      refine .rests _ ?_ calm rfl
      apply alike_updateLoop
      intro here present
      rw [found] at present
      cases present
      rfl
  | refuses cancelled previous found free untimed =>
      have calm : hub.loopTick? loop = none := by
        simp [loopTick?_eq, found, SnapshotLoop.tick?]
      refine .rests _ ?_ calm rfl
      exact hub.alike_finishLoop loop .panicked calm
  | exits origin ticks found =>
      have calm : hub.loopTick? loop = none := by
        simp [loopTick?_eq, found, SnapshotLoop.tick?]
      refine .rests _ ?_ calm rfl
      exact hub.alike_finishLoop loop .exited calm
  | begins origin ticks found due =>
      have calm : hub.loopTick? loop = none := by
        simp [loopTick?_eq, found, SnapshotLoop.tick?]
      exact hub.begins_turn loop ticks origin _ found rfl (calmReply calm)
  | ticks cancelled origin ticks operation advance found stepped =>
      have ticking : hub.loopTick? loop = some operation := by
        simp [loopTick?_eq, found, SnapshotLoop.tick?]
      refine hub.advance_turn _ operation advance _ (.loop loop operation ticking)
        stepped rfl ?_
      simp [loopReply?, ticking, stepped]

theorem loseRuntime_turn (hub : Hub) (signals : List Signal) :
    Turn hub ⟨hub.loseRuntime.1, signals, none⟩ .loseRuntime := by
  have all := hub.loseRuntime_induction
    (motive := fun _ next => ∃ ids : List OperationId,
      (∀ id ∈ ids, id ∈ hub.scheduledTicks) ∧
        next.Alike (ids.foldl forget hub))
    ⟨[], by simp, hub.alike_refl⟩
    (by
      rintro count next _ ⟨ids, ticking, alike⟩
      rcases next.alike_killLoop count with same | ⟨operation, inside, less⟩
      · exact ⟨ids, ticking, alike_trans _ _ _ same alike⟩
      · refine ⟨ids ++ [operation], ?_, ?_⟩
        · intro id member
          rcases List.mem_append.mp member with earlier | last
          · exact ticking id earlier
          · have now : id ∈ next.scheduledTicks := by
              rw [List.mem_singleton.mp last]
              exact (next.mem_scheduledTicks operation).mpr ⟨count, inside⟩
            rw [alike.ticks] at now
            exact ((hub.scheduledTicks_forgotten ids id).mp now).1
        · rw [List.foldl_append]
          exact alike_trans _ _ _ less (alike_forget _ _ operation alike))
  obtain ⟨ids, ticking, alike⟩ := all
  exact .loses ids ticking alike rfl

theorem answerScan_turn (hub : Hub) (id : OperationId) (outcome : ScanOutcome)
    (scanning : hub.operation? id = some (.tick .scanning)) :
    Turn hub (hub.answerScan id outcome) (.answerScan id outcome) := by
  cases outcome with
  | alarms alarms =>
      have result : hub.answerScan id (.alarms alarms) =
          ⟨{ hub with registry := hub.registry.request id .shared }.putOperation
            id (.tick (.delivering alarms .awaitingLock)),
            [.metric (.snapshotSize alarms.length)], none⟩ := by
        simp only [answerScan, scanning]
        rfl
      rw [result]
      exact .fetches id alarms scanning (alike_refl _) rfl
  | failed error =>
      have result : hub.answerScan id (.failed error) =
          hub.failTick id (.snapshotFailed error) error.message := by
        simp only [answerScan, scanning]
      rw [result]
      exact .fails id _ error.message scanning (alike_reclaim _) rfl
  | panicked payload =>
      have result : hub.answerScan id (.panicked payload) =
          hub.failTick id (.snapshotPanicked payload)
            ("panicked: " ++ payload.message) := by
        simp only [answerScan, scanning]
      rw [result]
      exact .fails id _ _ scanning (alike_reclaim _) rfl

/-- Every event is one of the turns. -/
theorem react_turn (hub : Hub) (now : Instant) (event : HubEvent)
    (step : Progress) (reacted : hub.react now event = some step) :
    Turn hub step event := by
  cases event with
  | ask request =>
      simp only [react] at reacted
      split at reacted
      · cases reacted
      · cases reacted
        refine .asks request ?_ rfl
        dsimp only
        rw [ask_hub]
        exact alike_refl _
  | start inRuntime =>
      refine .rests _ ?_ rfl rfl
      simp only [react, start] at reacted
      split at reacted
      · cases reacted
      · split at reacted
        · cases reacted
          exact hub.alike_refl
        · rename_i next loop signals started
          cases reacted
          split at started
          · cases started
            exact hub.alike_refl
          · split at started
            · cases started
            · cases started
              refine ⟨rfl, rfl, rfl, ?_⟩
              simp [scheduledTicks, spawnLoop, SnapshotLoop.spawned,
                SnapshotLoop.tick?]
  | stop =>
      simp only [react] at reacted
      split at reacted
      · cases reacted
      · cases owned : hub.task with
        | none =>
            simp only [stop, owned] at reacted
            cases reacted
            exact .rests _ hub.alike_refl rfl rfl
        | some loop =>
            simp only [stop, owned] at reacted
            cases reacted
            exact .stops loop owned
              (alike_begin hub.disown hub (.awaitExit loop) hub.alike_disown) rfl
  | advance id =>
      exact hub.advance_turn _ id step step (.caller id) reacted rfl rfl
  | answerCall id outcome =>
      cases inside : hub.call? id with
      | none => simp [react, inside] at reacted
      | some call =>
          obtain ⟨listener, delivery⟩ := call
          obtain ⟨operation, rest, report, found, walks⟩ :=
            (hub.call?_fanOut id listener delivery).mp inside
          obtain ⟨signals, moved⟩ := hub.react_answerCall id operation delivery
            found now outcome listener rest report walks
          rw [moved] at reacted
          cases reacted
          exact .hears id operation _ delivery listener rest report outcome found
            walks (operation.fanOut?_carrying delivery _ _ walks) (alike_refl _)
            rfl
  | answerScan id outcome =>
      simp only [react] at reacted
      split at reacted
      · rename_i scanning
        cases reacted
        exact hub.answerScan_turn id outcome
          ((hub.isScanning_iff id).mp scanning)
      · cases reacted
  | abandon id =>
      simp only [react] at reacted
      split at reacted
      · rename_i caller
        cases reacted
        exact .drops id (by simpa using caller) (alike_reclaim _) rfl
      · cases reacted
  | advanceLoop loop => exact hub.advanceLoop_turn now loop step reacted
  | loseRuntime =>
      simp only [react] at reacted
      cases reacted
      exact hub.loseRuntime_turn _
  | close =>
      refine .rests _ ?_ rfl rfl
      simp only [react] at reacted
      split at reacted
      · cases reacted
      · cases reacted
        have kept := alike_reclaim { hub with closed := true }
        exact ⟨kept.registry, kept.operations, kept.nextOperation, kept.ticks⟩

end AlarmRelay.Hub
