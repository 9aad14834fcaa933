import AlarmRelay.Hub.Script
import AlarmRelay.Proofs.Hub.Told

/-!
# An operation by itself

While nothing but its own events happens, an operation of a script has one way to
go.  Its prospect says which calls it has yet to begin, how many have yet to end
and what it will answer; every event that serves it brings it nearer to that.
-/

set_option autoImplicit false

namespace AlarmRelay

/-- What an operation will still do if it is served by itself. -/
structure Prospect where
  /-- Calls that have yet to begin. -/
  calls : List (Listener × Delivery)
  /-- How many calls have yet to end. -/
  ends : Nat
  /-- A bound on the events to come. -/
  steps : Nat
  members : List Listener
  /-- What it answers when its calls end with these outcomes. -/
  reply : List CallOutcome → Reply

namespace Prospect

def plain (members : List Listener) (reply : Reply) : Prospect :=
  ⟨[], 0, 1, members, fun _ => reply⟩

def delayed (prospect : Prospect) : Prospect :=
  { prospect with steps := prospect.steps + 1 }

/-- Some events have brought an operation from one prospect to another. -/
structure Spends (before after : Prospect) (events : Nat)
    (journal : List Mark) : Prop where
  calls : before.calls = Mark.handed journal ++ after.calls
  ends : before.ends = (Mark.verdicts journal).length + after.ends
  steps : events + after.steps ≤ before.steps
  members : before.members = after.members
  reply : ∀ outcomes,
    before.reply (Mark.verdicts journal ++ outcomes) = after.reply outcomes
  silent : Mark.replies journal = []

/-- Some events have brought an operation to its end. -/
structure Fulfilled (prospect : Prospect) (members : List Listener)
    (events : Nat) (journal : List Mark) : Prop where
  calls : prospect.calls = Mark.handed journal
  ends : prospect.ends = (Mark.verdicts journal).length
  steps : events ≤ prospect.steps
  members : prospect.members = members
  replies : Mark.replies journal = [prospect.reply (Mark.verdicts journal)]

theorem spends_nothing (prospect : Prospect) :
    prospect.Spends prospect 0 [] where
  calls := rfl
  ends := (Nat.zero_add _).symm
  steps := Nat.le_of_eq (Nat.zero_add _)
  members := rfl
  reply := fun _ => rfl
  silent := rfl

theorem spends_trans (first second third : Prospect) (events more : Nat)
    (journal later : List Mark) (left : first.Spends second events journal)
    (right : second.Spends third more later) :
    first.Spends third (events + more) (journal ++ later) where
  calls := by
    rw [Mark.handed_append, left.calls, right.calls, List.append_assoc]
  ends := by
    rw [Mark.verdicts_append, List.length_append, left.ends, right.ends]
    omega
  steps := by
    have near := left.steps
    have far := right.steps
    omega
  members := left.members.trans right.members
  reply := by
    intro outcomes
    rw [Mark.verdicts_append, List.append_assoc, left.reply, right.reply]
  silent := by
    rw [Mark.replies_append, left.silent, right.silent]
    rfl

theorem fulfilled_after (before after : Prospect) (members : List Listener)
    (events more : Nat) (journal later : List Mark)
    (spends : before.Spends after events journal)
    (fulfilled : after.Fulfilled members more later) :
    before.Fulfilled members (events + more) (journal ++ later) where
  calls := by rw [Mark.handed_append, spends.calls, fulfilled.calls]
  ends := by
    rw [Mark.verdicts_append, List.length_append, spends.ends, fulfilled.ends]
  steps := by
    have near := spends.steps
    have far := fulfilled.steps
    omega
  members := spends.members.trans fulfilled.members
  replies := by
    rw [Mark.replies_append, Mark.verdicts_append, spends.silent,
      fulfilled.replies, spends.reply]
    rfl

end Prospect

/-- The prospect of a fan-out over `members`; `answer` wraps up its report. -/
def FanOut.prospect (members : List Listener) (delivery : Delivery)
    (answer : DispatchReport → Reply) : FanOut → Prospect
  | .awaitingLock =>
      ⟨members.map fun listener => (listener, delivery), members.length,
        members.length + 2, members, fun outcomes => answer (.tally outcomes)⟩
  | .calling pending report =>
      ⟨pending.tail.map fun listener => (listener, delivery), pending.length,
        pending.length + 1, members,
        fun outcomes => answer (outcomes.foldl .record report)⟩

/-- What a tick answers after the fan-out of its alarms. -/
def TickOutcome.deliveredReply (alarms : List Alarm)
    (report : DispatchReport) : Reply :=
  .tick (.delivered alarms.length report)

/-- The prospect of a tick whose source answers like this. -/
def ScanOutcome.prospect (members : List Listener) : ScanOutcome → Prospect
  | .alarms found =>
      (FanOut.awaitingLock.prospect members (.snapshot found)
        (TickOutcome.deliveredReply found)).delayed
  | .failed error => .plain members (.tick (.failed error.message))
  | .panicked payload =>
      .plain members (.tick (.failed ("panicked: " ++ payload.message)))

namespace Operation

def Scripted : Operation → Prop
  | .add _ | .remove _ | .deliver _ _ _ | .tick _ => True
  | _ => False

/-- The lock that nobody but the operation knows. -/
def ownLock (id : OperationId) : Operation → FairLock
  | .add _ | .remove _ => ⟨[], some id, []⟩
  | .tick .scanning | .awaitExit _ => .free
  | _ => ⟨[id], none, []⟩

/-- The prospect of an operation of a script over `members`, should the source
answer with `scan`. -/
def prospect (members : List Listener) (scan : ScanOutcome) :
    Operation → Prospect
  | .add listener =>
      .plain ((ScriptCall.subscribe listener).members members)
        ((ScriptCall.subscribe listener).reply members [])
  | .remove listener =>
      .plain ((ScriptCall.unsubscribe listener).members members)
        ((ScriptCall.unsubscribe listener).reply members [])
  | .deliver delivery _ fanOut => fanOut.prospect members delivery .report
  | .tick .checking =>
      if members.isEmpty then .plain members (.tick .skipped)
      else (scan.prospect members).delayed
  | .tick .scanning => scan.prospect members
  | .tick (.delivering alarms fanOut) =>
      fanOut.prospect members (.snapshot alarms)
        (TickOutcome.deliveredReply alarms)
  | _ => .plain members .stopped

theorem ownLock_leave (operation : Operation) (id : OperationId) :
    (operation.ownLock id).leave id = .free := by
  have shared : FairLock.leave ⟨[id], none, []⟩ id = .free := by
    simp [FairLock.leave, FairLock.grantQueued, FairLock.grantFrom,
      FairLock.free]
  have exclusive : FairLock.leave ⟨[], some id, []⟩ id = .free := by
    simp [FairLock.leave, FairLock.grantQueued, FairLock.grantFrom,
      FairLock.free, Option.filter]
  cases operation with
  | tick phase => cases phase <;> first | exact shared | rfl
  | add => exact exclusive
  | remove => exact exclusive
  | awaitExit => rfl
  | _ => exact shared

section

variable (operation : Operation) (delivery : Delivery) (fanOut next : FanOut)
  (carries : operation.fanOut? = some (delivery, fanOut))

include carries

theorem scripted_fanOut : operation.Scripted := by
  obtain ⟨cause, rfl⟩ | ⟨alarms, rfl, rfl⟩ :=
    operation.fanOut?_cases delivery fanOut carries <;> trivial

theorem ownLock_fanOut (id : OperationId) :
    operation.ownLock id = ⟨[id], none, []⟩ := by
  obtain ⟨cause, rfl⟩ | ⟨alarms, rfl, rfl⟩ :=
    operation.fanOut?_cases delivery fanOut carries <;> rfl

theorem prospect_fanOut (members : List Listener) (scan : ScanOutcome) :
    operation.prospect members scan =
      fanOut.prospect members delivery operation.fanOutReply := by
  obtain ⟨cause, rfl⟩ | ⟨alarms, rfl, rfl⟩ :=
    operation.fanOut?_cases delivery fanOut carries <;> rfl

theorem prospect_carrying (members : List Listener) (scan : ScanOutcome) :
    (operation.carrying next).prospect members scan =
      next.prospect members delivery operation.fanOutReply := by
  obtain ⟨cause, rfl⟩ | ⟨alarms, rfl, rfl⟩ :=
    operation.fanOut?_cases delivery fanOut carries <;> rfl

end

end Operation

namespace Hub

/-- A hub that its owner holds and in which nothing is under way. -/
structure Resting (hub : Hub) : Prop where
  idle : hub.operations = []
  free : hub.registry.lock = .free
  owned : hub.closed = false
  calm : hub.scheduledTicks = []

/-- A hub in which nothing but one operation is under way. -/
structure Alone (hub : Hub) (id : OperationId) (operation : Operation) :
    Prop where
  only : hub.operations = [(id, operation)]
  lock : hub.registry.lock = operation.ownLock id
  owned : hub.closed = false
  calm : hub.scheduledTicks = []

/-- Where nothing is in flight, nobody knows the lock. -/
theorem resting_of_consistent (hub : Hub) (consistent : hub.Consistent)
    (idle : hub.operations = []) (owned : hub.closed = false) :
    hub.Resting where
  idle := idle
  owned := owned
  free := by
    have nobody : hub.registry.lock.tickets = [] := by
      apply List.eq_nil_iff_forall_not_mem.mpr
      intro id known
      have current := consistent.queued id known
      simp [inFlight, idle] at current
    simp only [FairLock.tickets, List.append_eq_nil_iff, Option.toList_eq_nil_iff,
      List.map_eq_nil_iff] at nobody
    obtain ⟨⟨readers, writer⟩, waiting⟩ := nobody
    have whole : hub.registry.lock = ⟨hub.registry.lock.readers,
      hub.registry.lock.writer, hub.registry.lock.waiting⟩ := rfl
    rw [whole, readers, writer, waiting]
    rfl
  calm := by
    apply List.eq_nil_iff_forall_not_mem.mpr
    intro id ticking
    have current := consistent.ticking id ticking
    simp [inFlight, idle] at current

theorem reclaim_of_owned (hub : Hub) (owned : hub.closed = false) :
    hub.reclaim = (hub, []) := by
  simp [reclaim, owned]

theorem conclude_of_owned (hub : Hub) (id : OperationId)
    (signals : List Signal) (reply : Reply) (owned : hub.closed = false) :
    hub.conclude id signals reply = ⟨hub.forget id, signals, some reply⟩ := by
  have kept : (hub.forget id).closed = false := owned
  simp [conclude, reclaim_of_owned _ kept]

/-! ## Operations by themselves -/

section

variable (hub : Hub) (id : OperationId) (operation : Operation)

theorem alone_found (alone : hub.Alone id operation) :
    hub.operation? id = some operation := by
  simp [operation?, alone.only]

theorem alone_forget (registry : Registry) (alone : hub.Alone id operation)
    (same : registry.lock = hub.registry.lock) :
    ({ hub with registry := registry }.forget id).Resting where
  idle := by simp [alone.only]
  free := by
    rw [forget_registry, Registry.leave, same, alone.lock]
    exact operation.ownLock_leave id
  owned := alone.owned
  calm := by
    have none : ({ hub with registry := registry }).scheduledTicks = [] :=
      alone.calm
    rw [scheduledTicks_forget, none]
    rfl

theorem alone_put (registry : Registry) (next : Operation)
    (alone : hub.Alone id operation)
    (lock : registry.lock = next.ownLock id) :
    ({ hub with registry := registry }.putOperation id next).Alone id next where
  only := by simp [putOperation, alone.only]
  lock := lock
  owned := alone.owned
  calm := alone.calm

end

/-- How an operation that was served by itself stands after some events. -/
inductive Stage (hub : Hub) (id : OperationId) (scan : ScanOutcome)
    (operation : Operation) (events : Nat) (journal : List Mark) (next : Hub) :
    Prop where
  | underWay (later : Operation) (scripted : later.Scripted)
      (alone : next.Alone id later)
      (listeners : next.registry.listeners = hub.registry.listeners)
      (spends : (operation.prospect hub.registry.listeners scan).Spends
        (later.prospect hub.registry.listeners scan) events journal)
  | isOver (resting : next.Resting)
      (fulfilled : (operation.prospect hub.registry.listeners scan).Fulfilled
        next.registry.listeners events journal)

section

variable (hub : Hub) (id : OperationId) (scan : ScanOutcome)
  (operation : Operation) (event : HubEvent) (step : Progress)

theorem stage_answers (registry : Registry) (reply : Reply)
    (alone : hub.Alone id operation)
    (plain : operation.prospect hub.registry.listeners scan =
      { Prospect.plain registry.listeners reply with
        reply := (operation.prospect hub.registry.listeners scan).reply })
    (said : (operation.prospect hub.registry.listeners scan).reply [] = reply)
    (same : registry.lock = hub.registry.lock)
    (result : step.hub = { hub with registry := registry }.forget id)
    (replied : step.reply = some reply) (unheard : hub.endMarks event = []) :
    Stage hub id scan operation 1 (hub.marks event step) step.hub := by
  have resting : step.hub.Resting := by
    rw [result]
    exact hub.alone_forget id operation registry alone same
  have nobody : (hub.subject? event).bind step.hub.call? = none := by
    cases hub.subject? event with
    | none => rfl
    | some other =>
        apply step.hub.call?_of_absent
        simp [operation?, resting.idle]
  have verdicts : Mark.verdicts (hub.marks event step) = [] := by
    rw [marks_verdicts, unheard]
    rfl
  refine .isOver resting ?_
  constructor
  · rw [marks_handed, nobody, plain]
    rfl
  · rw [verdicts, plain]
    rfl
  · rw [plain]
    exact Nat.le_refl 1
  · rw [plain, result]
    rfl
  · rw [marks_replies, verdicts, said, replied]
    simp [inFlight, alone.only, resting.idle]

theorem stage_moves (registry : Registry) (later : Operation)
    (alone : hub.Alone id operation) (scripted : later.Scripted)
    (lock : registry.lock = later.ownLock id)
    (listeners : registry.listeners = hub.registry.listeners)
    (result : step.hub =
      { hub with registry := registry }.putOperation id later)
    (silent : step.reply = none)
    (calls : (operation.prospect hub.registry.listeners scan).calls =
      ((hub.subject? event).bind step.hub.call?).toList ++
        (later.prospect hub.registry.listeners scan).calls)
    (ends : (operation.prospect hub.registry.listeners scan).ends =
      (Mark.verdicts (hub.endMarks event)).length +
        (later.prospect hub.registry.listeners scan).ends)
    (steps : (operation.prospect hub.registry.listeners scan).steps =
      (later.prospect hub.registry.listeners scan).steps + 1)
    (members : (operation.prospect hub.registry.listeners scan).members =
      (later.prospect hub.registry.listeners scan).members)
    (reply : ∀ outcomes,
      (operation.prospect hub.registry.listeners scan).reply
        (Mark.verdicts (hub.endMarks event) ++ outcomes) =
      (later.prospect hub.registry.listeners scan).reply outcomes) :
    Stage hub id scan operation 1 (hub.marks event step) step.hub := by
  refine .underWay later scripted ?_ ?_ ?_
  · rw [result]
    exact hub.alone_put id operation registry later alone lock
  · rw [result]
    exact listeners
  · constructor
    · rw [marks_handed]
      exact calls
    · rw [marks_verdicts]
      exact ends
    · rw [steps]
      exact Nat.le_of_eq (Nat.add_comm 1 _)
    · exact members
    · rw [marks_verdicts]
      exact reply
    · rw [marks_replies, silent]
      simp

end

/-! ## Events that serve an operation -/

section

variable (hub : Hub) (id : OperationId) (scan : ScanOutcome)
  (operation : Operation) (delivery : Delivery) (step : Progress)
  (alone : hub.Alone id operation)

include alone

/-- The walk of a fan-out goes on in another state. -/
theorem stage_carries (event : HubEvent) (fanOut : FanOut)
    (pending : List Listener) (report : DispatchReport)
    (carries : operation.fanOut? = some (delivery, fanOut))
    (subject : hub.subject? event = some id)
    (result : step.hub =
      hub.putOperation id (operation.carrying (.calling pending report)))
    (silent : step.reply = none)
    (calls : (operation.prospect hub.registry.listeners scan).calls =
      pending.map fun listener => (listener, delivery))
    (ends : (operation.prospect hub.registry.listeners scan).ends =
      (Mark.verdicts (hub.endMarks event)).length + pending.length)
    (steps : (operation.prospect hub.registry.listeners scan).steps =
      pending.length + 2)
    (reply : ∀ outcomes,
      (operation.prospect hub.registry.listeners scan).reply
        (Mark.verdicts (hub.endMarks event) ++ outcomes) =
      operation.fanOutReply (outcomes.foldl .record report)) :
    Stage hub id scan operation 1 (hub.marks event step) step.hub := by
  have walks := operation.fanOut?_carrying delivery fanOut
    (.calling pending report) carries
  have lock : hub.registry.lock =
      (operation.carrying (.calling pending report)).ownLock id := by
    rw [alone.lock, operation.ownLock_fanOut delivery fanOut carries,
      Operation.ownLock_fanOut _ delivery _ walks]
  have present : step.hub.operation? id =
      some (operation.carrying (.calling pending report)) := by
    rw [result]
    exact alone_found _ id _
      (hub.alone_put id operation hub.registry _ alone lock)
  -- The call that begins is the one to the first of `pending`, if there is any.
  have inside := step.hub.call?_of_walking id _ delivery _ _ present walks
  have after := operation.prospect_carrying delivery fanOut
    (.calling pending report) carries hub.registry.listeners scan
  apply hub.stage_moves id scan operation event step hub.registry _ alone
    (Operation.scripted_fanOut _ delivery _ walks) lock rfl result silent
  · rw [subject, Option.bind_some, inside, after, calls]
    cases pending <;> rfl
  · rw [after]
    exact ends
  · rw [after]
    exact steps
  · rw [operation.prospect_fanOut delivery fanOut carries, after]
    cases fanOut <;> rfl
  · intro outcomes
    rw [after]
    exact reply outcomes

theorem fanOut_stage (fanOut : FanOut)
    (carries : operation.fanOut? = some (delivery, fanOut))
    (advanced : hub.advance id = some step) :
    Stage hub id scan operation 1 (hub.marks (.advance id) step) step.hub := by
  have found := hub.alone_found id operation alone
  have prospect := operation.prospect_fanOut delivery fanOut carries
    hub.registry.listeners scan
  cases fanOut with
  | awaitingLock =>
      have held : hub.registry.lock.holdsShared id = true := by
        rw [alone.lock, operation.ownLock_fanOut delivery _ carries]
        simp [FairLock.holdsShared]
      rw [hub.advance_awaiting id operation delivery found carries, if_pos held]
        at advanced
      cases advanced
      apply hub.stage_carries id scan operation delivery _ alone (.advance id) _
        hub.registry.listeners .empty carries rfl rfl rfl
      · rw [prospect]
        rfl
      · rw [prospect]
        exact (Nat.zero_add _).symm
      · rw [prospect]
        rfl
      · intro outcomes
        rw [prospect]
        rfl
  | calling pending report =>
      cases pending with
      | nil =>
          obtain ⟨signals, concluded⟩ :=
            hub.advance_walked id operation delivery found report carries
          rw [concluded, conclude_of_owned _ id _ _ alone.owned] at advanced
          cases advanced
          apply hub.stage_answers id scan operation _ _ hub.registry
            (operation.fanOutReply report) alone
          · rw [prospect]
            rfl
          · rw [prospect]
            rfl
          · rfl
          · rfl
          · rfl
          · rfl
      | cons listener rest =>
          rw [hub.advance_calling id operation delivery found listener rest report
            carries] at advanced
          cases advanced

theorem answerCall_stage (now : Instant) (outcome : CallOutcome)
    (reacted : hub.react now (.answerCall id outcome) = some step) :
    Stage hub id scan operation 1 (hub.marks (.answerCall id outcome) step)
      step.hub := by
  have found := hub.alone_found id operation alone
  cases inside : hub.call? id with
  | none => simp [react, inside] at reacted
  | some call =>
      obtain ⟨listener, handed⟩ := call
      obtain ⟨other, rest, report, present, walks⟩ :=
        (hub.call?_fanOut id listener handed).mp inside
      rw [found] at present
      cases present
      obtain ⟨signals, moved⟩ := hub.react_answerCall id operation handed found
        now outcome listener rest report walks
      rw [moved] at reacted
      cases reacted
      have heard : Mark.verdicts (hub.endMarks (.answerCall id outcome)) =
          [outcome] := by
        simp [endMarks, inside, Mark.verdicts]
      have prospect := operation.prospect_fanOut handed _ walks
        hub.registry.listeners scan
      apply hub.stage_carries id scan operation handed _ alone _ _ rest
        (report.record outcome) walks rfl rfl rfl
      · rw [prospect]
        rfl
      · rw [heard, prospect]
        exact Nat.add_comm _ 1
      · rw [prospect]
        rfl
      · intro outcomes
        rw [heard, prospect]
        rfl

end

section

variable (hub : Hub) (id : OperationId) (scan : ScanOutcome)
  (operation : Operation) (step : Progress)

theorem checking_stage (alone : hub.Alone id (.tick .checking))
    (advanced : hub.advance id = some step) :
    Stage hub id scan (.tick .checking) 1 (hub.marks (.advance id) step)
      step.hub := by
  have found := hub.alone_found id _ alone
  have held : hub.registry.lock.holdsShared id = true := by
    simp [alone.lock, Operation.ownLock, FairLock.holdsShared]
  simp only [advance, found, held, if_true] at advanced
  cases nobody : hub.registry.listeners.isEmpty with
  | true =>
      simp only [nobody, if_true] at advanced
      rw [conclude_of_owned _ id _ _ alone.owned] at advanced
      cases advanced
      apply hub.stage_answers id scan _ _ _ hub.registry (.tick .skipped) alone
      · simp only [Operation.prospect, nobody, if_true]
      · simp only [Operation.prospect, nobody, if_true, Prospect.plain]
      · rfl
      · rfl
      · rfl
      · rfl
  | false =>
      simp only [nobody] at advanced
      cases advanced
      have prospect : (Operation.tick .checking).prospect
          hub.registry.listeners scan =
            (scan.prospect hub.registry.listeners).delayed := by
        simp [Operation.prospect, nobody]
      apply hub.stage_moves id scan _ _ _ (hub.registry.leave id)
        (.tick .scanning) alone trivial
      · rw [Registry.leave, alone.lock]
        exact (Operation.tick .checking).ownLock_leave id
      · rfl
      · rfl
      · rfl
      · rw [prospect]
        have calm := call?_of_calm
          ({ hub with registry := hub.registry.leave id }.putOperation id
            (.tick .scanning)) id (.tick .scanning)
          (by simp [operation?, putOperation, alone.only])
          (by intro _ _ _ walks; cases walks)
        rw [subject?, Option.bind_some, calm]
        rfl
      · rw [prospect]
        exact (Nat.zero_add _).symm
      · rw [prospect]
        rfl
      · rw [prospect]
        rfl
      · intro outcomes
        rw [prospect]
        rfl

theorem advance_stage (alone : hub.Alone id operation)
    (scripted : operation.Scripted)
    (advanced : hub.advance id = some step) :
    Stage hub id scan operation 1 (hub.marks (.advance id) step) step.hub := by
  have found := hub.alone_found id operation alone
  cases operation with
  | add listener =>
      have held : hub.registry.lock.holdsExclusive id = true := by
        simp [alone.lock, Operation.ownLock, FairLock.holdsExclusive]
      have owned : ({ hub with registry := hub.registry.add listener }).closed =
        false := alone.owned
      simp only [advance, found, held, if_true] at advanced
      rw [conclude_of_owned _ id _ _ owned] at advanced
      cases advanced
      apply hub.stage_answers id scan _ _ _ (hub.registry.add listener) _ alone
      · rw [hub.registry.add_members]
        rfl
      · rfl
      · unfold Registry.add
        split <;> rfl
      · rfl
      · rfl
      · rfl
  | remove listener =>
      have held : hub.registry.lock.holdsExclusive id = true := by
        simp [alone.lock, Operation.ownLock, FairLock.holdsExclusive]
      have owned : ({ hub with
        registry := hub.registry.remove listener }).closed = false := alone.owned
      simp only [advance, found, held, if_true] at advanced
      rw [conclude_of_owned _ id _ _ owned] at advanced
      cases advanced
      exact hub.stage_answers id scan _ _ _ (hub.registry.remove listener) _
        alone rfl rfl rfl rfl rfl rfl
  | deliver delivery cause fanOut =>
      exact hub.fanOut_stage id scan _ delivery step alone fanOut rfl advanced
  | tick phase =>
      cases phase with
      | checking => exact hub.checking_stage id scan step alone advanced
      | scanning => simp [advance, found] at advanced
      | delivering alarms fanOut =>
          exact hub.fanOut_stage id scan _ (.snapshot alarms) step alone fanOut rfl
            advanced
  | _ => cases scripted

theorem answerScan_stage (now : Instant) (alone : hub.Alone id operation)
    (reacted : hub.react now (.answerScan id scan) = some step) :
    Stage hub id scan operation 1 (hub.marks (.answerScan id scan) step)
      step.hub := by
  have found := hub.alone_found id operation alone
  simp only [react] at reacted
  split at reacted
  · rename_i reading
    have scanning := (hub.isScanning_iff id).mp reading
    rw [found] at scanning
    cases scanning
    simp only [answerScan, found, Option.some.injEq] at reacted
    cases scan with
    | alarms alarms =>
        cases reacted
        have shared : FairLock.request .free id .shared = ⟨[id], none, []⟩ := rfl
        apply hub.stage_moves id (.alarms alarms) _ _ _
          (hub.registry.request id .shared)
          (.tick (.delivering alarms .awaitingLock)) alone trivial
        · rw [Registry.request, alone.lock]
          exact shared
        · rfl
        · rfl
        · rfl
        · rfl
        · exact (Nat.zero_add _).symm
        · rfl
        · rfl
        · exact fun _ => rfl
    | failed error =>
        simp only [failTick] at reacted
        rw [conclude_of_owned _ id _ _ alone.owned] at reacted
        cases reacted
        exact hub.stage_answers id (.failed error) _ _ _ hub.registry _ alone rfl
          rfl rfl rfl rfl rfl
    | panicked payload =>
        simp only [failTick] at reacted
        rw [conclude_of_owned _ id _ _ alone.owned] at reacted
        cases reacted
        exact hub.stage_answers id (.panicked payload) _ _ _ hub.registry _ alone
          rfl rfl rfl rfl rfl rfl
  · cases reacted

/-- Every event that serves an operation brings it nearer to its end. -/
theorem serves_stage (call : ScriptCall) (now : Instant) (event : HubEvent)
    (alone : hub.Alone id operation) (scripted : operation.Scripted)
    (serves : call.Serves id event)
    (reacted : hub.react now event = some step) :
    Stage hub id call.scan operation 1 (hub.marks event step) step.hub := by
  cases serves with
  | advance =>
      exact hub.advance_stage id call.scan operation step alone scripted reacted
  | answerCall outcome =>
      exact hub.answerCall_stage id call.scan operation step alone now outcome
        reacted
  | answerScan =>
      exact hub.answerScan_stage id call.scan operation step now alone reacted

end

/-- Nothing serves an operation that is gone. -/
theorem resting_refuses (hub : Hub) (id : OperationId) (call : ScriptCall)
    (now : Instant) (event : HubEvent) (resting : hub.Resting)
    (serves : call.Serves id event) : hub.react now event = none := by
  have gone : hub.operation? id = none := by
    simp [operation?, resting.idle]
  cases serves with
  | advance => simp [react, advance, gone]
  | answerCall outcome => simp [react, hub.call?_of_absent id gone]
  | answerScan => simp [react, isScanning, gone]

end Hub
end AlarmRelay
