import AlarmRelay.Hub.Fleet
import AlarmRelay.Proofs.Hub.Alike

/-!
# What is booked for an operation

The accounts of a fleet are about the operations that notify listeners.  Such an
operation is measured when it begins, when it moves on and when it ends, and in no
other event.  `Deed` lists what one event can do to the operations of a hub together
with exactly what it measures and which failures it logs.
-/

set_option autoImplicit false

namespace AlarmRelay

/-- Whether the accounts are about a signal. -/
def Signal.isBooked : Signal → Bool
  | .metric (.listeners _) | .metric .describe => false
  | .metric _ => true
  | .log (.listenerFailed _ _ _) => true
  | .log _ => false

def Signal.booked (signals : List Signal) : List Signal :=
  signals.filter Signal.isBooked

theorem Signal.booked_append (first second : List Signal) :
    booked (first ++ second) = booked first ++ booked second :=
  List.filter_append first second

/-- A delivery fans out an announced event under the label of that event. -/
def Operation.Announced : Operation → Prop
  | .deliver delivery cause _ =>
      ∃ event, delivery = .ofEvent event ∧ cause = AlarmEvent.label event
  | _ => True

/-- One step of a walk, with what is booked for it. -/
inductive FanOut.Walks (delivery : Delivery) (cause : String) :
    FanOut → FanOut → List Signal → Prop where
  | begins (listeners : List Listener) :
      Walks delivery cause .awaitingLock (.calling listeners .empty) []
  | accepts (listener : Listener) (rest : List Listener)
      (report counted : DispatchReport)
      (kept : counted.failed = report.failed) :
      Walks delivery cause (.calling (listener :: rest) report)
        (.calling rest counted) []
  | faults (listener : Listener) (rest : List Listener)
      (report counted : DispatchReport) (error : ListenerError)
      (grown : counted.failed = report.failed + 1) :
      Walks delivery cause (.calling (listener :: rest) report)
        (.calling rest counted)
        [.metric (.listenerFailure delivery.path.label),
          .log (.listenerFailed listener.name cause error)]

theorem FanOut.walks_answer (delivery : Delivery) (cause : String)
    (listener : Listener) (rest : List Listener) (report : DispatchReport)
    (outcome : CallOutcome) :
    Walks delivery cause (.calling (listener :: rest) report)
      (.calling rest (report.record outcome))
      (Signal.booked (callSignals delivery cause listener outcome)) := by
  unfold callSignals DispatchReport.record
  cases outcome.error? with
  | none => exact .accepts listener rest report _ rfl
  | some error => exact .faults listener rest report _ error rfl

namespace Operation

/-- An operation begins, with what is booked for it. -/
inductive Opens : Operation → List Signal → Prop where
  | announces (event : AlarmEvent) :
      Opens (.deliver (.ofEvent event) event.label .awaitingLock)
        [.metric (.event event.label)]
  | ticks : Opens (.tick .checking) []
  | plain (operation : Operation) (quiet : operation.notifies = false) :
      Opens operation []

/-- An operation moves on, with what is booked for it. -/
inductive Moves : Operation → Operation → List Signal → Prop where
  | scans : Moves (.tick .checking) (.tick .scanning) []
  | fetches (alarms : List Alarm) :
      Moves (.tick .scanning) (.tick (.delivering alarms .awaitingLock))
        [.metric (.snapshotSize alarms.length)]
  | announces (event : AlarmEvent) (before after : FanOut)
      (booked : List Signal)
      (walks : FanOut.Walks (.ofEvent event) event.label before after booked) :
      Moves (.deliver (.ofEvent event) event.label before)
        (.deliver (.ofEvent event) event.label after) booked
  | delivers (alarms : List Alarm) (before after : FanOut)
      (booked : List Signal)
      (walks : FanOut.Walks (.snapshot alarms) "snapshot" before after booked) :
      Moves (.tick (.delivering alarms before))
        (.tick (.delivering alarms after)) booked

/-- An operation answers, with what is booked for it. -/
inductive Ends : Operation → Reply → List Signal → Prop where
  | announced (event : AlarmEvent) (report : DispatchReport) :
      Ends (.deliver (.ofEvent event) event.label (.calling [] report))
        (.report report)
        [.metric (.latency (Delivery.ofEvent event).path.label)]
  | skipped : Ends (.tick .checking) (.tick .skipped)
      [.metric (.tick TickOutcome.skipped.label)]
  | failed (message : String) : Ends (.tick .scanning) (.tick (.failed message))
      [.metric (.tick (TickOutcome.failed message).label)]
  | delivered (alarms : List Alarm) (report : DispatchReport) :
      Ends (.tick (.delivering alarms (.calling [] report)))
        (.tick (.delivered alarms.length report))
        [.metric (.latency DeliveryPath.snapshot.label),
          .metric (.tick (TickOutcome.delivered alarms.length report).label)]
  | plain (operation : Operation) (reply : Reply)
      (quiet : operation.notifies = false) (untold : reply.outcome? = none)
      (unreported : reply.report? = none) : Ends operation reply []

theorem announced_of_opens (operation : Operation) (booked : List Signal)
    (opens : operation.Opens booked) : operation.Announced := by
  cases opens with
  | announces event => exact ⟨event, rfl, rfl⟩
  | ticks => trivial
  | plain _ quiet =>
      cases operation <;> trivial

theorem announced_of_moves (before after : Operation) (booked : List Signal)
    (moves : before.Moves after booked) : after.Announced := by
  cases moves with
  | announces event => exact ⟨event, rfl, rfl⟩
  | scans | fetches | delivers => trivial

end Operation

namespace Hub

/-- What one event does to the operations of a hub, with what is booked for it. -/
inductive Deed (hub : Hub) (step : Progress) : Prop where
  | rests (same : step.hub.operations = hub.operations)
      (unbooked : Signal.booked step.signals = [])
  /-- Operations are dropped. -/
  | loses (ids : List OperationId)
      (kept : step.hub.operations =
        hub.operations.filter fun entry => !ids.contains entry.1)
      (silent : step.reply = none)
      (unbooked : Signal.booked step.signals = [])
  | begins (operation : Operation)
      (grown : step.hub.operations =
        hub.operations ++ [(hub.nextOperation, operation)])
      (opens : operation.Opens (Signal.booked step.signals))
  | moves (id : OperationId) (before after : Operation)
      (found : hub.operation? id = some before)
      (moved : step.hub.operations = (hub.putOperation id after).operations)
      (moves : before.Moves after (Signal.booked step.signals))
  | ends (id : OperationId) (operation : Operation) (reply : Reply)
      (found : hub.operation? id = some operation)
      (left : step.hub.operations = (hub.forget id).operations)
      (replied : step.reply = some reply)
      (ends : operation.Ends reply (Signal.booked step.signals))

/-! ## Helpers of the hub -/

theorem reclaim_unbooked (hub : Hub) : Signal.booked hub.reclaim.2 = [] := by
  unfold reclaim
  split
  · dsimp only
    split
    · dsimp only [Registry.releaseSignals]
      split <;> rfl
    · rfl
  · rfl

theorem finishLoop_operations (hub : Hub) (loop : LoopId) (result : LoopEnd) :
    (hub.finishLoop loop result).1.operations = hub.operations :=
  reclaim_operations _

theorem finishLoop_unbooked (hub : Hub) (loop : LoopId) (result : LoopEnd) :
    Signal.booked (hub.finishLoop loop result).2 = [] :=
  reclaim_unbooked _

theorem abandon_operations (hub : Hub) (id : OperationId) :
    (hub.abandon id).1.operations =
      hub.operations.filter fun entry => entry.1 != id :=
  reclaim_operations _

theorem abandon_unbooked (hub : Hub) (id : OperationId) :
    Signal.booked (hub.abandon id).2 = [] :=
  reclaim_unbooked _

/-- An operation that concludes ends, and what becomes of the hub is not booked. -/
theorem conclude_deed (hub : Hub) (registry : Registry) (id : OperationId)
    (operation : Operation) (signals : List Signal) (reply : Reply)
    (found : hub.operation? id = some operation)
    (ends : operation.Ends reply (Signal.booked signals)) :
    Deed hub (conclude { hub with registry := registry } id signals reply) := by
  refine .ends id operation reply found ?_ rfl ?_
  · rw [conclude_hub, reclaim_operations]
    rfl
  · have quiet := reclaim_unbooked ({ hub with registry := registry }.forget id)
    have whole : (conclude { hub with registry := registry } id signals
        reply).signals = signals ++
          ({ hub with registry := registry }.forget id).reclaim.2 := rfl
    rw [whole, Signal.booked_append, quiet, List.append_nil]
    exact ends

/-! ## Steps of operations -/

theorem fanOutStep_continues (hub : Hub) (id : OperationId)
    (fanOut next : FanOut) (delivery : Delivery) (cause : String)
    (stepped : hub.fanOutStep id fanOut = .continues next) :
    FanOut.Walks delivery cause fanOut next [] := by
  unfold fanOutStep at stepped
  split at stepped
  · split at stepped
    · cases stepped
      exact .begins _
    · cases stepped
  · cases stepped
  · cases stepped

theorem fanOutStep_ends (hub : Hub) (id : OperationId) (fanOut : FanOut)
    (report : DispatchReport)
    (stepped : hub.fanOutStep id fanOut = .ends report) :
    fanOut = .calling [] report := by
  unfold fanOutStep at stepped
  split at stepped
  · split at stepped <;> cases stepped
  · cases stepped
    rfl
  · cases stepped

theorem advance_deed (hub : Hub) (id : OperationId) (step : Progress)
    (announced : ∀ operation, hub.operation? id = some operation →
      operation.Announced)
    (advanced : hub.advance id = some step) : Deed hub step := by
  obtain ⟨operation, found⟩ := hub.advance_operation id step advanced
  have named := announced operation found
  unfold advance at advanced
  rw [found] at advanced
  cases operation with
  | add listener =>
      dsimp only at advanced
      split at advanced
      · cases advanced
        refine hub.conclude_deed _ id _ _ _ found ?_
        have unbooked :
            Signal.booked (hub.registry.addSignals listener) = [] := by
          unfold Registry.addSignals
          split <;> rfl
        rw [unbooked]
        exact .plain _ _ rfl rfl rfl
      · cases advanced
  | remove listener =>
      dsimp only at advanced
      split at advanced
      · cases advanced
        refine hub.conclude_deed _ id _ _ _ found ?_
        have unbooked :
            Signal.booked (hub.registry.removeSignals listener) = [] := by
          unfold Registry.removeSignals
          split <;> rfl
        rw [unbooked]
        exact .plain _ _ rfl rfl rfl
      · cases advanced
  | count | isEmpty | listeners =>
      dsimp only at advanced
      split at advanced
      · cases advanced
        exact hub.conclude_deed hub.registry id _ _ _ found
          (.plain _ _ rfl rfl rfl)
      · cases advanced
  | borrow => cases advanced
  | deliver delivery cause fanOut =>
      obtain ⟨event, rfl, rfl⟩ := named
      dsimp only [fanOutStep] at advanced
      split at advanced
      · cases advanced
      · rename_i next stepped
        cases advanced
        exact .moves id _ _ found rfl (.announces event _ _ _
          (hub.fanOutStep_continues id fanOut next _ _ stepped))
      · rename_i report stepped
        cases advanced
        rw [hub.fanOutStep_ends id fanOut report stepped] at found
        exact hub.conclude_deed hub.registry id _ _ _ found
          (.announced event report)
  | tick phase =>
      cases phase with
      | checking =>
          dsimp only at advanced
          split at advanced
          · split at advanced
            · cases advanced
              exact hub.conclude_deed hub.registry id _ _ _ found .skipped
            · cases advanced
              exact .moves id _ _ found rfl .scans
          · cases advanced
      | scanning => cases advanced
      | delivering alarms fanOut =>
          dsimp only at advanced
          split at advanced
          · cases advanced
          · rename_i next stepped
            cases advanced
            exact .moves id _ _ found rfl (.delivers alarms _ _ _
              (hub.fanOutStep_continues id fanOut next _ _ stepped))
          · rename_i report stepped
            cases advanced
            rw [hub.fanOutStep_ends id fanOut report stepped] at found
            exact hub.conclude_deed hub.registry id _ _ _ found
              (.delivered alarms report)
  | awaitExit loop =>
      dsimp only at advanced
      split at advanced
      · cases advanced
        exact hub.conclude_deed hub.registry id _ _ _ found
          (.plain _ _ rfl rfl rfl)
      · cases advanced
        exact hub.conclude_deed hub.registry id _ _ _ found
          (.plain _ _ rfl rfl rfl)
      · cases advanced

theorem answerCall_deed (hub : Hub) (id : OperationId) (outcome : CallOutcome)
    (operation : Operation) (found : hub.operation? id = some operation)
    (announced : operation.Announced) (listener : Listener)
    (delivery : Delivery)
    (calling : operation.demand = .call listener delivery) :
    Deed hub ⟨(hub.answerCall id outcome).1, (hub.answerCall id outcome).2,
      none⟩ := by
  obtain ⟨rest, report, walks⟩ :=
    (operation.demand_call listener delivery).mp calling
  have answers : hub.answerCall id outcome =
      (hub.putOperation id (operation.answerCall outcome).1,
        (operation.answerCall outcome).2) := by
    simp only [answerCall, found]
  rw [answers]
  refine .moves id operation _ found rfl ?_
  obtain ⟨cause, rfl⟩ | ⟨alarms, rfl, rfl⟩ :=
    operation.fanOut?_cases delivery _ walks
  · obtain ⟨event, rfl, rfl⟩ := announced
    exact .announces event _ _ _
      (FanOut.walks_answer _ _ listener rest report outcome)
  · exact .delivers alarms _ _ _
      (FanOut.walks_answer _ _ listener rest report outcome)

theorem answerScan_deed (hub : Hub) (id : OperationId) (outcome : ScanOutcome)
    (scanning : hub.operation? id = some (.tick .scanning)) :
    Deed hub (hub.answerScan id outcome) := by
  cases outcome with
  | alarms alarms =>
      have answers : hub.answerScan id (.alarms alarms) =
          ⟨{ hub with registry := hub.registry.request id .shared }.putOperation
            id (.tick (.delivering alarms .awaitingLock)),
            [.metric (.snapshotSize alarms.length)], none⟩ := by
        simp only [answerScan, scanning]
        rfl
      rw [answers]
      exact .moves id _ _ scanning rfl (.fetches alarms)
  | failed error =>
      simp only [answerScan, scanning]
      exact hub.conclude_deed hub.registry id _ _ _ scanning (.failed _)
  | panicked payload =>
      simp only [answerScan, scanning]
      exact hub.conclude_deed hub.registry id _ _ _ scanning (.failed _)

/-! ## Steps of loops -/

theorem advanceLoop_deed (hub : Hub) (now : Instant) (loop : LoopId)
    (result : Hub × List Signal)
    (announced : ∀ id operation, hub.operation? id = some operation →
      operation.Announced)
    (advanced : hub.advanceLoop now loop = some result) :
    Deed hub ⟨result.1, result.2, hub.loopReply? loop⟩ := by
  unfold advanceLoop at advanced
  split at advanced
  · cases advanced
  · rename_i entry present
    obtain ⟨cancelled, phase⟩ := entry
    cases phase with
    | waiting previous =>
        dsimp only at advanced
        split at advanced
        · split at advanced
          · cases advanced
            exact .rests (hub.finishLoop_operations loop .panicked)
              (hub.finishLoop_unbooked loop .panicked)
          · cases advanced
            exact .rests rfl rfl
        · cases advanced
    | idle origin ticks =>
        dsimp only at advanced
        split at advanced
        · cases advanced
          refine .rests (hub.finishLoop_operations loop .exited) ?_
          exact hub.finishLoop_unbooked loop .exited
        · split at advanced
          · cases advanced
            exact .begins (.tick .checking) rfl .ticks
          · cases advanced
    | ticking origin ticks operation =>
        dsimp only at advanced
        obtain ⟨step, stepped, same⟩ := Option.map_eq_some_iff.mp advanced
        cases same
        -- What a loop answers is the answer of the tick that it is inside of.
        have replies : hub.loopReply? loop = step.reply := by
          simp [loopReply?, loopTick?, present, stepped]
        rw [replies]
        exact hub.advance_deed operation step (announced operation) stepped
    | finished result => cases advanced

/-- Operations are gone, and the others stand as before. -/
def Loses (hub next : Hub) : Prop :=
  ∃ ids : List OperationId, next.operations =
    hub.operations.filter fun entry => !ids.contains entry.1

theorem loses_of_same (hub next : Hub)
    (same : next.operations = hub.operations) : hub.Loses next :=
  ⟨[], same.trans (List.filter_eq_self.mpr fun _ _ => rfl).symm⟩

theorem loses_trans (first second third : Hub) (early : first.Loses second)
    (late : second.Loses third) : first.Loses third := by
  obtain ⟨ids, kept⟩ := early
  obtain ⟨others, left⟩ := late
  refine ⟨ids ++ others, ?_⟩
  rw [left, kept, List.filter_filter]
  apply List.filter_congr
  intro entry _
  simp [Bool.and_comm]

theorem loses_abandon (hub : Hub) (id : OperationId) :
    hub.Loses (hub.abandon id).1 := by
  refine ⟨[id], ?_⟩
  rw [abandon_operations]
  apply List.filter_congr
  intro entry _
  by_cases same : entry.1 = id <;> simp [same]

theorem killLoop_loses (hub : Hub) (loop : LoopId) :
    hub.Loses (hub.killLoop loop).1 ∧
      Signal.booked (hub.killLoop loop).2 = [] := by
  unfold killLoop
  split
  · exact ⟨hub.loses_of_same hub rfl, rfl⟩
  · dsimp only
    split
    · refine ⟨hub.loses_of_same _ (finishLoop_operations _ loop .killed), ?_⟩
      rw [Signal.booked_append, finishLoop_unbooked]
      rfl
    · rename_i operation _
      constructor
      · exact loses_trans _ _ _ (hub.loses_abandon operation)
          (loses_of_same _ _ (finishLoop_operations _ loop .killed))
      · rw [Signal.booked_append, finishLoop_unbooked, abandon_unbooked]
        rfl

theorem loseRuntime_loses (hub : Hub) :
    hub.Loses hub.loseRuntime.1 ∧ Signal.booked hub.loseRuntime.2 = [] := by
  apply hub.loseRuntime_signals
    (motive := fun next signals => hub.Loses next ∧ Signal.booked signals = [])
  · exact ⟨hub.loses_of_same hub rfl, rfl⟩
  · rintro next signals loop ⟨lost, unbooked⟩
    obtain ⟨more, quiet⟩ := next.killLoop_loses loop
    refine ⟨loses_trans _ _ _ lost more, ?_⟩
    rw [Signal.booked_append, unbooked, quiet]
    rfl

/-! ## The events one by one -/

/-- Every event is one of the deeds, unless it is a notification past the calls that
announce events. -/
theorem react_deed (hub : Hub) (now : Instant) (event : HubEvent)
    (step : Progress)
    (announced : ∀ id operation, hub.operation? id = some operation →
      operation.Announced)
    (ingress : event.isRaw = false) (reacted : hub.react now event = some step) :
    Deed hub step := by
  cases event with
  | ask request =>
      simp only [react] at reacted
      split at reacted
      · cases reacted
      · cases request with
        | deliver delivery cause => cases ingress
        | publish event =>
            cases reacted
            exact .begins _ rfl (.announces event)
        | snapshot =>
            cases reacted
            exact .begins _ rfl .ticks
        | subscribe | unsubscribe | count | isEmpty | listeners | borrow =>
            cases reacted
            exact .begins _ rfl (.plain _ rfl)
  | start inRuntime =>
      simp only [react, start] at reacted
      split at reacted
      · cases reacted
      · split at reacted
        · cases reacted
          exact .rests rfl rfl
        · rename_i next loop signals started
          cases reacted
          split at started
          · cases started
            exact .rests rfl rfl
          · split at started
            · cases started
            · cases started
              exact .rests rfl rfl
  | stop =>
      simp only [react] at reacted
      split at reacted
      · cases reacted
      · cases owned : hub.task with
        | none =>
            simp only [stop, owned] at reacted
            cases reacted
            exact .rests rfl rfl
        | some loop =>
            simp only [stop, owned] at reacted
            cases reacted
            refine .begins (.awaitExit loop) ?_ (.plain _ rfl)
            exact (alike_begin hub.disown hub (.awaitExit loop)
              hub.alike_disown).operations
  | advance id => exact hub.advance_deed id step (announced id) reacted
  | answerCall id outcome =>
      cases inside : hub.call? id with
      | none => simp [react, inside] at reacted
      | some call =>
          obtain ⟨listener, delivery⟩ := call
          obtain ⟨operation, rest, report, found, walks⟩ :=
            (hub.call?_fanOut id listener delivery).mp inside
          simp only [react, inside] at reacted
          cases reacted
          exact hub.answerCall_deed id outcome operation found
            (announced id operation found) listener delivery
            ((operation.demand_call listener delivery).mpr ⟨rest, report, walks⟩)
  | answerScan id outcome =>
      simp only [react] at reacted
      split at reacted
      · rename_i scanning
        cases reacted
        exact hub.answerScan_deed id outcome ((hub.isScanning_iff id).mp scanning)
      · cases reacted
  | abandon id =>
      simp only [react] at reacted
      split at reacted
      · cases reacted
        obtain ⟨ids, kept⟩ := hub.loses_abandon id
        exact .loses ids kept rfl (hub.abandon_unbooked id)
      · cases reacted
  | advanceLoop loop =>
      simp only [react] at reacted
      obtain ⟨result, advanced, rfl⟩ := Option.map_eq_some_iff.mp reacted
      exact hub.advanceLoop_deed now loop result announced advanced
  | loseRuntime =>
      cases reacted
      obtain ⟨⟨ids, kept⟩, unbooked⟩ := hub.loseRuntime_loses
      exact .loses ids kept rfl unbooked
  | close =>
      simp only [react] at reacted
      split at reacted
      · cases reacted
      · cases reacted
        exact .rests (reclaim_operations _) (reclaim_unbooked _)

end Hub
end AlarmRelay
