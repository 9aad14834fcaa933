import AlarmRelay.Hub.Waiting
import AlarmRelay.Proofs.Hub.Cancellation
import AlarmRelay.Proofs.Hub.Lined
import AlarmRelay.Proofs.Hub.LoopOrder
import AlarmRelay.Proofs.Hub.Placed
import AlarmRelay.Proofs.Hub.Quiet

/-!
# No deadlock

Chains of waiting end.  Everybody in the line at the lock waits for somebody before
them in it, loops wait for older loops or for their tick, and a stop waits for a
loop; so every link leads downwards in one order.  Where a chain ends, somebody can
take a step or has gone out of the hub, because a queue has a holder before it, a
loop that is joined has been asked to shut down, and so has a loop that another
one waits for.
-/

set_option autoImplicit false

namespace AlarmRelay

namespace FairLock

section

variable (lock : FairLock) (single : (lock.line.map LockRequest.ticket).Nodup)

include single

theorem queue_nodup : lock.queue.Nodup := by
  simp only [line, List.map_append, List.nodup_append] at single
  exact single.2.1

/-- Whoever waits holds nothing. -/
theorem queue_holds_nothing (ticket : Ticket) (queued : ticket ∈ lock.queue) :
    lock.holdsShared ticket = false ∧ lock.holdsExclusive ticket = false := by
  simp only [line, List.map_append, List.nodup_append, List.mem_append]
    at single
  constructor
  · rw [← Bool.not_eq_true, holdsShared, List.contains_iff_mem]
    intro reads
    exact single.2.2 ticket (Or.inl (by simpa using reads)) ticket queued rfl
  · rw [← Bool.not_eq_true, holdsExclusive, beq_iff_eq]
    intro writes
    exact single.2.2 ticket (Or.inr (by simp [writes])) ticket queued rfl

end

theorem mem_line_queue (lock : FairLock) (ticket : Ticket)
    (queued : ticket ∈ lock.queue) :
    ∃ mode, (⟨ticket, mode⟩ : LockRequest) ∈ lock.line := by
  obtain ⟨⟨_, mode⟩, waits, rfl⟩ := List.mem_map.mp queued
  exact ⟨mode, List.mem_append_right _ waits⟩

/-- A place in the line is a side that is held or a place in the queue. -/
theorem line_cases (lock : FairLock) (ticket : Ticket) (mode : LockMode)
    (member : (⟨ticket, mode⟩ : LockRequest) ∈ lock.line) :
    ticket ∈ lock.queue ∨
      mode = .shared ∧ lock.holdsShared ticket = true ∨
        mode = .exclusive ∧ lock.holdsExclusive ticket = true := by
  simp only [line, List.mem_append, List.mem_map, LockRequest.mk.injEq,
    Option.mem_toList] at member
  rcases member with (⟨_, reads, rfl, rfl⟩ | ⟨_, writes, rfl, rfl⟩) | waits
  · exact Or.inr (Or.inl ⟨rfl, by simpa [holdsShared] using reads⟩)
  · exact Or.inr (Or.inr ⟨rfl, by simpa [holdsExclusive] using writes⟩)
  · exact Or.inl (List.mem_map.mpr ⟨_, waits, rfl⟩)

end FairLock

namespace Hub

/-- What is known of a hub that a run reaches. -/
structure Standing (hub : Hub) : Prop where
  ordered : hub.Ordered
  consistent : hub.Consistent
  placed : hub.Placed
  /-- Nobody stands twice in the line. -/
  single : (hub.registry.lock.line.map LockRequest.ticket).Nodup
  /-- Whoever stands in the line asks for the lock. -/
  entitled : ∀ entry ∈ hub.registry.lock.line, ∃ operation,
    hub.operation? entry.ticket = some operation ∧
      operation.lockSide? = some entry.mode
  unborrowed : ∀ id, hub.operation? id ≠ some .borrow

theorem standing_run (config : HubConfig) (valid : config.validate = .ok ())
    (timeline : Timeline) (hub : Hub)
    (kept : ∀ entry ∈ timeline, entry.2 ≠ .ask .borrow)
    (reached : (create config).run timeline = some hub) : hub.Standing := by
  have lined := lined_run config valid timeline hub reached
  exact {
    ordered := ordered_run config valid timeline hub reached
    consistent := lined.consistent
    placed := placed_run config valid timeline hub reached
    single := lined.single
    entitled := lined.entitled
    unborrowed := (create config).unborrowed_run hub timeline
      (consistent_create config) (by intro id found; cases found) kept reached }

/-- How many links a chain of waiting can have from an agent on. -/
def depth (hub : Hub) : Agent → Nat
  | .operation id =>
      match hub.operation? id with
      | some (.awaitExit loop) => hub.registry.lock.queue.length + 2 + loop
      | _ =>
          if id ∈ hub.registry.lock.queue then
            hub.registry.lock.queue.idxOf id + 1
          else 0
  | .loop id => hub.registry.lock.queue.length + 1 + id

section

variable (hub : Hub) (standing : hub.Standing)

theorem depth_plain (id : OperationId)
    (plain : ∀ loop, hub.operation? id ≠ some (.awaitExit loop)) :
    hub.depth (.operation id) =
      if id ∈ hub.registry.lock.queue then
        hub.registry.lock.queue.idxOf id + 1
      else 0 := by
  simp only [depth]

theorem holder_line (id : OperationId)
    (held : hub.registry.lock.holdsShared id = true ∨
      hub.registry.lock.holdsExclusive id = true) :
    ∃ mode, (⟨id, mode⟩ : LockRequest) ∈ hub.registry.lock.line := by
  rcases held with reads | writes
  · exact ⟨_, FairLock.mem_line_readers _ id ((hub.holdsShared_iff id).mp reads)⟩
  · exact ⟨_, FairLock.mem_line_writer _ id
      (by simpa [FairLock.holdsExclusive] using writes)⟩

include standing

/-- Whoever stands in the line joins no loop. -/
theorem standing_plain (id : OperationId) (mode : LockMode)
    (member : (⟨id, mode⟩ : LockRequest) ∈ hub.registry.lock.line)
    (loop : LoopId) : hub.operation? id ≠ some (.awaitExit loop) := by
  obtain ⟨operation, found, side⟩ := standing.entitled _ member
  intro joins
  rw [joins] at found
  cases found
  cases side

theorem depth_queued (id : OperationId)
    (queued : id ∈ hub.registry.lock.queue) :
    hub.depth (.operation id) = hub.registry.lock.queue.idxOf id + 1 := by
  obtain ⟨mode, member⟩ := FairLock.mem_line_queue _ id queued
  rw [hub.depth_plain id (hub.standing_plain standing id mode member),
    if_pos queued]

/-- Every link leads downwards. -/
theorem depth_waits (agent next : Agent) (waits : hub.WaitsFor agent next) :
    hub.depth next < hub.depth agent := by
  cases waits with
  | holder id other queued held =>
      obtain ⟨mode, member⟩ := hub.holder_line other held
      have apart : other ∉ hub.registry.lock.queue := by
        intro waits
        obtain ⟨reads, writes⟩ :=
          FairLock.queue_holds_nothing _ standing.single other waits
        rcases held with holds | holds
        · rw [holds] at reads
          cases reads
        · rw [holds] at writes
          cases writes
      rw [hub.depth_queued standing id queued, hub.depth_plain other
        (hub.standing_plain standing other mode member), if_neg apart]
      exact Nat.succ_pos _
  | earlier id other first last queue before =>
      have queued : id ∈ hub.registry.lock.queue := by simp [queue]
      have sooner : other ∈ hub.registry.lock.queue := by simp [queue, before]
      have nodup := FairLock.queue_nodup _ standing.single
      rw [queue, List.nodup_append] at nodup
      have apart : id ∉ first := by
        intro member
        exact nodup.2.2 id member id List.mem_cons_self rfl
      rw [hub.depth_queued standing id queued,
        hub.depth_queued standing other sooner, queue,
        List.idxOf_append_of_notMem apart, List.idxOf_append_of_mem before,
        List.idxOf_cons_self]
      have place := List.idxOf_lt_length_of_mem before
      omega
  | joins id loop found running =>
      simp only [depth, found]
      omega
  | behind id previous cancelled found running =>
      have link := standing.ordered.linked.waits id cancelled (some previous)
        (by simp [chain_links, found, SnapshotLoop.link])
      cases id with
      | zero => cases link
      | succ last =>
          cases link
          simp only [depth]
          omega
  | inside loop id ticking =>
      have member := (hub.mem_scheduledTicks id).mpr ⟨loop, ticking⟩
      rw [hub.depth_plain id (standing.placed.ticks id member)]
      simp only [depth]
      split
      · rename_i queued
        have place := List.idxOf_lt_length_of_mem queued
        omega
      · omega

/-- Whoever waits stands no deeper than its queue and the loops allow. -/
theorem depth_bound (agent next : Agent) (waits : hub.WaitsFor agent next) :
    hub.depth agent ≤
      hub.registry.lock.waiting.length + hub.loops.length + 1 := by
  have length : hub.registry.lock.queue.length =
      hub.registry.lock.waiting.length := List.length_map _
  have queued : ∀ id ∈ hub.registry.lock.queue, hub.depth (.operation id) ≤
      hub.registry.lock.waiting.length + hub.loops.length + 1 := by
    intro id member
    rw [hub.depth_queued standing id member]
    have place := List.idxOf_lt_length_of_mem member
    omega
  have spawned : ∀ loop here, hub.loops[loop]? = some here →
      loop < hub.loops.length :=
    fun loop here found => (List.getElem?_eq_some_iff.mp found).1
  cases waits with
  | holder id other member held => exact queued id member
  | earlier id other first last queue before =>
      exact queued id (by simp [queue])
  | joins id loop found running =>
      obtain ⟨here, present, _⟩ := standing.placed.joined id loop found
      have within := spawned loop here present
      simp only [depth, found]
      omega
  | behind id previous cancelled found running =>
      have within := spawned id _ found
      simp only [depth]
      omega
  | inside loop id ticking =>
      rw [loopTick?_eq] at ticking
      obtain ⟨here, found, _⟩ := Option.bind_eq_some_iff.mp ticking
      have within := spawned loop here found
      simp only [depth]
      omega

end

/-! ## The end of a chain -/

section

variable (hub : Hub) (id : OperationId) (operation : Operation)
  (found : hub.operation? id = some operation)

include found

/-- A fan-out that holds the shared side goes on, unless a listener is being
called. -/
theorem fanOut_goes (delivery : Delivery) (fanOut : FanOut)
    (carries : operation.fanOut? = some (delivery, fanOut))
    (held : hub.registry.lock.holdsShared id = true) :
    (hub.advance id).isSome = true ∨ hub.isOutside (.operation id) = true := by
  cases fanOut with
  | awaitingLock =>
      left
      rw [hub.advance_awaiting id operation delivery found carries, if_pos held]
      rfl
  | calling pending report =>
      cases pending with
      | nil =>
          left
          obtain ⟨signals, advanced⟩ :=
            hub.advance_walked id operation delivery found report carries
          rw [advanced]
          rfl
      | cons listener rest =>
          right
          have calling := (hub.call?_fanOut id listener delivery).mpr
            ⟨operation, rest, report, found, carries⟩
          simp [isOutside, calling]

/-- Whoever holds the side of the lock that it asked for goes on, unless a listener
is being called. -/
theorem holder_goes (owned : operation ≠ .borrow)
    (held : operation.lockSide? = some .shared ∧
        hub.registry.lock.holdsShared id = true ∨
      operation.lockSide? = some .exclusive ∧
        hub.registry.lock.holdsExclusive id = true) :
    (hub.advance id).isSome = true ∨ hub.isOutside (.operation id) = true := by
  rcases held with ⟨side, reads⟩ | ⟨side, writes⟩
  · cases operation with
    | add listener => cases side
    | remove listener => cases side
    | count | isEmpty | listeners =>
        left
        simp [advance, found, reads]
    | borrow => exact absurd rfl owned
    | deliver delivery cause fanOut =>
        exact hub.fanOut_goes id _ found delivery fanOut rfl reads
    | tick phase =>
        cases phase with
        | checking =>
            left
            simp only [advance, found, reads, if_true]
            split <;> rfl
        | scanning => cases side
        | delivering alarms fanOut =>
            exact hub.fanOut_goes id _ found (.snapshot alarms) fanOut rfl reads
    | awaitExit loop => cases side
  · left
    cases operation with
    | add listener => simp [advance, found, writes]
    | remove listener => simp [advance, found, writes]
    | tick phase => cases phase <;> cases side
    | _ => cases side

end

section

variable (hub : Hub)

/-- A queue has a holder before it. -/
theorem queued_waits (standing : hub.Standing) (id : OperationId)
    (queued : id ∈ hub.registry.lock.queue) :
    ∃ next, hub.WaitsFor (.operation id) next := by
  have waiting : hub.registry.lock.waiting ≠ [] := by
    intro nobody
    simp [FairLock.queue, nobody] at queued
  obtain ⟨holder, held⟩ := standing.placed.occupied waiting
  refine ⟨.operation holder, .holder id holder queued ?_⟩
  rcases held with reads | writes
  · exact Or.inl ((hub.holdsShared_iff holder).mpr reads)
  · exact Or.inr (by simp [FairLock.holdsExclusive, writes])

theorem joins_goes (id : OperationId) (loop : LoopId) (here : SnapshotLoop)
    (found : hub.operation? id = some (.awaitExit loop))
    (present : hub.loops[loop]? = some here) :
    (hub.advance id).isSome = true ∨ hub.loopFinished loop = false := by
  obtain ⟨cancelled, phase⟩ := here
  cases phase with
  | finished result =>
      left
      cases result <;> simp [advance, found, present]
  | _ => right; simp [loopFinished, present, SnapshotLoop.isFinished]

theorem operation_goes (standing : hub.Standing) (id : OperationId)
    (pending : id ∈ hub.inFlight) :
    hub.CanStep (.operation id) ∨ hub.isOutside (.operation id) = true ∨
      ∃ next, hub.WaitsFor (.operation id) next := by
  have steps : (hub.advance id).isSome = true → hub.CanStep (.operation id) :=
    fun advances _ => advances
  obtain ⟨operation, found⟩ := (hub.mem_inFlight id).mp pending
  cases side : operation.lockSide? with
  | some mode =>
      have member := standing.placed.asks id operation mode found side
      rcases FairLock.line_cases _ id mode member with queued | held
      · exact Or.inr (Or.inr (hub.queued_waits standing id queued))
      · have owned : operation ≠ .borrow := by
          rintro rfl
          exact standing.unborrowed id found
        rcases hub.holder_goes id operation found owned (by simpa [side] using held)
          with advances | outside
        · exact Or.inl (steps advances)
        · exact Or.inr (Or.inl outside)
  | none =>
      cases operation with
      | tick phase =>
          cases phase with
          | scanning =>
              have scanning := (hub.isScanning_iff id).mpr found
              exact Or.inr (Or.inl (by simp [isOutside, scanning]))
          | checking => cases side
          | delivering alarms fanOut => cases side
      | awaitExit loop =>
          obtain ⟨here, present, _⟩ := standing.placed.joined id loop found
          rcases hub.joins_goes id loop here found present with advances | running
          · exact Or.inl (steps advances)
          · exact Or.inr (Or.inr ⟨_, .joins id loop found running⟩)
      | _ => cases side

theorem loop_goes (standing : hub.Standing) (id : LoopId) (here : SnapshotLoop)
    (found : hub.loops[id]? = some here) (running : here.isFinished = false)
    (awake : here.dozes = false) :
    hub.CanStep (.loop id) ∨ ∃ next, hub.WaitsFor (.loop id) next := by
  have timed := standing.ordered.timed
  obtain ⟨cancelled, phase⟩ := here
  cases phase with
  | waiting previous =>
      cases ready : (previous.map hub.loopFinished).getD true with
      | true =>
          left
          intro now
          simp [Agent.turn, react, advanceLoop, found, ready, timed]
      | false =>
          cases previous with
          | none => cases ready
          | some last => exact Or.inr ⟨_, .behind id last cancelled found ready⟩
  | idle origin ticks =>
      left
      have asked : cancelled = true := by
        simpa [SnapshotLoop.dozes] using awake
      intro now
      simp [Agent.turn, react, advanceLoop, found, asked]
  | ticking origin ticks operation =>
      refine Or.inr ⟨_, .inside id operation ?_⟩
      simp [loopTick?, found]
  | finished result => cases running

theorem pending_goes (standing : hub.Standing) (agent : Agent)
    (pending : hub.IsPending agent) :
    hub.CanStep agent ∨ hub.isOutside agent = true ∨
      ∃ next, hub.WaitsFor agent next := by
  cases agent with
  | operation id => exact hub.operation_goes standing id pending
  | loop id =>
      obtain ⟨here, found, running, awake⟩ := pending
      rcases hub.loop_goes standing id here found running awake with steps | waits
      · exact Or.inl steps
      · exact Or.inr (Or.inr waits)

/-- A loop that another one waits for has been asked to shut down, because only the
last loop can be owned. -/
theorem behind_asked (standing : hub.Standing) (id previous : LoopId)
    (cancelled : Bool) (here : SnapshotLoop)
    (found : hub.loops[id]? = some ⟨cancelled, .waiting (some previous)⟩)
    (present : hub.loops[previous]? = some here)
    (running : here.isFinished = false) : here.cancelled = true := by
  have linked := standing.ordered.linked
  have link := linked.waits id cancelled (some previous)
    (by simp [chain_links, found, SnapshotLoop.link])
  have within := (List.getElem?_eq_some_iff.mp found).1
  rw [← Bool.not_eq_false]
  intro unasked
  have live : hub.isLive previous = true := by
    simp [isLive, present, SnapshotLoop.isLive, running, unasked]
  have owned : hub.chain.task = some previous :=
    ((hub.isLive_owned previous linked).mp live).2
  have latest := (linked.owned previous owned).1
  rw [linked.latest] at latest
  have length : hub.chain.links.length = hub.loops.length := by simp [chain]
  rw [length] at latest
  cases id with
  | zero => cases link
  | succ last =>
      cases link
      cases count : hub.loops.length with
      | zero => omega
      | succ others =>
          rw [count] at latest
          cases latest
          omega

/-- What a pending agent waits for is pending. -/
theorem pending_waits (standing : hub.Standing) (agent next : Agent)
    (waits : hub.WaitsFor agent next) : hub.IsPending next := by
  have standsIn : ∀ id mode,
      (⟨id, mode⟩ : LockRequest) ∈ hub.registry.lock.line → id ∈ hub.inFlight := by
    intro id mode member
    obtain ⟨operation, found, _⟩ := standing.entitled _ member
    exact (hub.mem_inFlight id).mpr ⟨operation, found⟩
  have awake : ∀ here : SnapshotLoop, here.cancelled = true →
      here.dozes = false := by
    rintro ⟨cancelled, phase⟩ rfl
    cases phase <;> rfl
  cases waits with
  | holder id other queued held =>
      obtain ⟨mode, member⟩ := hub.holder_line other held
      exact standsIn other mode member
  | earlier id other first last queue before =>
      obtain ⟨mode, member⟩ :=
        FairLock.mem_line_queue hub.registry.lock other (by simp [queue, before])
      exact standsIn other mode member
  | joins id loop found running =>
      obtain ⟨here, present, asked⟩ := standing.placed.joined id loop found
      exact ⟨here, present, by simpa [loopFinished, present] using running,
        awake here asked⟩
  | behind id previous cancelled found running =>
      cases present : hub.loops[previous]? with
      | none => simp [loopFinished, present] at running
      | some here =>
          have underWay : here.isFinished = false := by
            simpa [loopFinished, present] using running
          exact ⟨here, present, underWay, awake here
            (hub.behind_asked standing id previous cancelled here found present
              underWay)⟩
  | inside loop id ticking =>
      exact standing.consistent.ticking id
        ((hub.mem_scheduledTicks id).mpr ⟨loop, ticking⟩)

/-- Whoever stands in the queue takes no step and is not outside. -/
theorem queued_rests (standing : hub.Standing) (id : OperationId)
    (queued : id ∈ hub.registry.lock.queue) :
    hub.advance id = none ∧ hub.isOutside (.operation id) = false := by
  obtain ⟨mode, member⟩ := FairLock.mem_line_queue _ id queued
  obtain ⟨operation, found, side⟩ := standing.entitled _ member
  obtain ⟨unread, unwritten⟩ :=
    FairLock.queue_holds_nothing _ standing.single id queued
  have apart : id ∉ hub.registry.lock.readers := by
    intro reads
    rw [(hub.holdsShared_iff id).mpr reads] at unread
    cases unread
  constructor
  · rw [Option.eq_none_iff_forall_ne_some]
    intro step advanced
    cases advance_cases hub id operation step found advanced with
    | answers _ registry reply _ answer result replied =>
        rcases hub.answer_granted id operation registry reply standing.consistent
          found answer (by rw [side]; rfl) with reads | writes
        · exact apart reads
        · simp [FairLock.holdsExclusive, writes] at unwritten
    | scans _ held somebody result silent =>
        rw [held] at unread
        cases unread
    | walks _ next delivery _ held before after result silent =>
        rw [held] at unread
        cases unread
  · have uncalled : hub.call? id = none := by
      rw [Option.eq_none_iff_forall_ne_some]
      rintro ⟨listener, delivery⟩ calling
      obtain ⟨walking, rest, report, present, walks⟩ :=
        (hub.call?_fanOut id listener delivery).mp calling
      exact apart (standing.consistent.walking id walking delivery _ report present
        walks).1
    have unread : hub.isScanning id = false := by
      rw [← Bool.not_eq_true, isScanning_iff, found]
      rintro scanning
      cases scanning
      cases side
    simp [isOutside, uncalled, unread]

/-- A loop inside a tick takes the steps of the tick and no other. -/
theorem loop_step_ticks (now : Instant) (loop : LoopId) (id : OperationId)
    (step : Progress) (ticking : hub.loopTick? loop = some id)
    (reacted : hub.react now (.advanceLoop loop) = some step) :
    hub.advance id = some step := by
  have here := ticking
  rw [loopTick?_eq] at here
  obtain ⟨⟨cancelled, phase⟩, found, inside⟩ := Option.bind_eq_some_iff.mp here
  cases phase with
  | ticking origin ticks operation =>
      cases inside
      cases advanced : hub.advance id with
      | none => simp [react, advanceLoop, found, advanced] at reacted
      | some tick =>
          rw [← reacted, hub.tick_advances now loop id tick ticking advanced]
  | _ => cases inside

/-- Whoever waits takes no step of its own. -/
theorem waits_rests (standing : hub.Standing) (agent next : Agent)
    (waits : hub.WaitsFor agent next) :
    hub.isOutside agent = false ∧ ∀ now step,
      hub.react now agent.turn = some step →
        hub.react now next.turn = some step := by
  have queuedCase : ∀ id ∈ hub.registry.lock.queue, ∀ next : Agent,
      hub.isOutside (.operation id) = false ∧ ∀ now step,
        hub.react now (Agent.operation id).turn = some step →
          hub.react now next.turn = some step := by
    intro id queued next
    obtain ⟨stuck, inside⟩ := hub.queued_rests standing id queued
    refine ⟨inside, ?_⟩
    intro now step reacted
    have moved : hub.advance id = some step := reacted
    rw [stuck] at moved
    cases moved
  cases waits with
  | holder id other queued held => exact queuedCase id queued _
  | earlier id other first last queue before =>
      exact queuedCase id (by simp [queue]) _
  | joins id loop found running =>
      refine ⟨by simp [isOutside, call?, isScanning, found, Operation.demand], ?_⟩
      intro now step reacted
      have awaits : hub.Awaits id loop := {
        consistent := standing.consistent
        named := standing.consistent.named id ((hub.mem_inFlight id).mpr ⟨_, found⟩)
        waits := by
          intro operation present
          rw [found] at present
          exact (Option.some.inj present).symm }
      rw [hub.awaits_over now id loop step awaits reacted] at running
      cases running
  | behind id previous cancelled found running =>
      refine ⟨rfl, ?_⟩
      intro now step reacted
      simp [Agent.turn, react, advanceLoop, found, running] at reacted
  | inside loop id ticking =>
      refine ⟨rfl, ?_⟩
      intro now step reacted
      exact hub.loop_step_ticks now loop id step ticking reacted

/-- A chain of waiting is no longer than its first link is deep. -/
theorem chain_depth (standing : hub.Standing) (agent : Agent)
    (rest : List Agent) (chain : (agent :: rest).IsChain hub.WaitsFor) :
    rest.length ≤ hub.depth agent := by
  induction rest generalizing agent with
  | nil => exact Nat.zero_le _
  | cons next others ih =>
      obtain ⟨waits, shorter⟩ := List.isChain_cons_cons.mp chain
      have lower := hub.depth_waits standing agent next waits
      have bound := ih next shorter
      rw [List.length_cons]
      omega

theorem chain_bound (standing : hub.Standing) (chain : List Agent)
    (links : chain.IsChain hub.WaitsFor) :
    chain.length ≤
      hub.registry.lock.waiting.length + hub.loops.length + 2 := by
  cases chain with
  | nil => exact Nat.zero_le _
  | cons agent rest =>
      cases rest with
      | nil => simp
      | cons next others =>
          have waits := (List.isChain_cons_cons.mp links).1
          have length := hub.chain_depth standing agent (next :: others) links
          have bound := hub.depth_bound standing agent next waits
          rw [List.length_cons]
          omega

theorem waitsOn_pending (standing : hub.Standing) (agent last : Agent)
    (pending : hub.IsPending agent) (waits : hub.WaitsOn agent last) :
    hub.IsPending last := by
  induction waits with
  | refl => exact pending
  | tail _ link _ => exact hub.pending_waits standing _ _ link

/-- Every chain comes to an end. -/
theorem waitsOn_ends (standing : hub.Standing) (agent : Agent) :
    ∃ last, hub.WaitsOn agent last ∧ ∀ next, ¬ hub.WaitsFor last next := by
  induction depth : hub.depth agent using Nat.strong_induction_on
    generalizing agent with
  | _ deep ih =>
      by_cases waits : ∃ next, hub.WaitsFor agent next
      · obtain ⟨next, link⟩ := waits
        have lower := hub.depth_waits standing agent next link
        obtain ⟨last, further, free⟩ := ih (hub.depth next) (depth ▸ lower) next rfl
        exact ⟨last, .head link further, free⟩
      · exact ⟨agent, .refl, fun next link => waits ⟨next, link⟩⟩

/-- Where a chain comes to an end, somebody goes on or is outside. -/
theorem waitsOn_goes (standing : hub.Standing) (agent last : Agent)
    (pending : hub.IsPending agent) (waits : hub.WaitsOn agent last)
    (free : ∀ next, ¬ hub.WaitsFor last next) :
    hub.CanStep last ∨ hub.isOutside last = true := by
  have still := hub.waitsOn_pending standing agent last pending waits
  rcases hub.pending_goes standing last still with steps | outside | ⟨next, link⟩
  · exact Or.inl steps
  · exact Or.inr outside
  · exact absurd link (free next)

theorem waitsOn_awake (standing : hub.Standing) (agent : Agent) (loop : LoopId)
    (here : SnapshotLoop) (pending : hub.IsPending agent)
    (waits : hub.WaitsOn agent (.loop loop)) (found : hub.loops[loop]? = some here) :
    here.dozes = false := by
  obtain ⟨loop, present, _, awake⟩ :=
    hub.waitsOn_pending standing agent _ pending waits
  rw [found] at present
  cases present
  exact awake

theorem waitsOn_closed (agent last : Agent) (agents : Agent → Prop)
    (member : agents agent)
    (closed : ∀ one other, agents one → hub.WaitsFor one other → agents other)
    (waits : hub.WaitsOn agent last) : agents last := by
  induction waits with
  | refl => exact member
  | tail _ link ih => exact closed _ _ ih link

end

/-- Nothing at a hub waits for what waits for it. -/
structure Unblocked (hub : Hub) : Prop where
  /-- Chains of waiting are finite. -/
  finite : ∀ chain : List Agent, chain.IsChain hub.WaitsFor →
    chain.length ≤ hub.registry.lock.waiting.length + hub.loops.length + 2
  /-- Whoever waits is inside of the hub and takes no step of its own: a step of a
  loop inside a tick is one of the tick. -/
  waits : ∀ agent next, hub.WaitsFor agent next →
    hub.isOutside agent = false ∧ ∀ now step,
      hub.react now agent.turn = some step →
        hub.react now next.turn = some step
  /-- Whatever a pending agent waits for has an end, ... -/
  reaches : ∀ agent, hub.IsPending agent → ∃ last,
    hub.WaitsOn agent last ∧ ∀ next, ¬ hub.WaitsFor last next
  /-- ... at somebody who can take a step, or who is inside a listener call or the
  reading of the source, ... -/
  ends : ∀ agent last, hub.IsPending agent → hub.WaitsOn agent last →
    (∀ next, ¬ hub.WaitsFor last next) →
      hub.CanStep last ∨ hub.isOutside last = true
  /-- ... and never at the timer of a loop that nobody has asked to shut down. -/
  awake : ∀ agent loop here, hub.IsPending agent →
    hub.WaitsOn agent (.loop loop) → hub.loops[loop]? = some here →
      here.dozes = false
  /-- Pending agents that wait for nobody but one another are not all stuck. -/
  knotless : ∀ agents : Agent → Prop, (∃ agent, agents agent) →
    (∀ agent, agents agent → hub.IsPending agent) →
      (∀ agent next, agents agent → hub.WaitsFor agent next → agents next) →
        ∃ agent, agents agent ∧
          (hub.CanStep agent ∨ hub.isOutside agent = true)

/-- Whatever callers, listeners, the alarm source and the runtime do to a hub, it
does not deadlock.  Nobody borrows its registry, since a hub has no call that lends
it out. -/
theorem hub_never_deadlocks (config : HubConfig)
    (valid : config.validate = .ok ()) (timeline : Timeline) (hub : Hub)
    (kept : ∀ entry ∈ timeline, entry.2 ≠ .ask .borrow)
    (reached : (create config).run timeline = some hub) : hub.Unblocked := by
  have standing := standing_run config valid timeline hub kept reached
  refine {
    finite := hub.chain_bound standing
    waits := hub.waits_rests standing
    reaches := fun agent _ => hub.waitsOn_ends standing agent
    ends := hub.waitsOn_goes standing
    awake := hub.waitsOn_awake standing
    knotless := ?_ }
  -- Whoever stands at the end of a chain is one of them.
  rintro agents ⟨agent, member⟩ pending closed
  obtain ⟨last, waits, free⟩ := hub.waitsOn_ends standing agent
  exact ⟨last, hub.waitsOn_closed agent last agents member closed waits,
    hub.waitsOn_goes standing agent last (pending agent member) waits free⟩

/-- A loop that has fetched its alarms queues behind a new listener, which queues
behind a delivery; meanwhile the hub is stopped and started again. -/
def pileUpTimeline : Timeline :=
  [(⟨0⟩, .ask (.subscribe ⟨1, "pager"⟩)), (⟨0⟩, .advance 0),
    (⟨0⟩, .start true), (⟨0⟩, .advanceLoop 0), (⟨0⟩, .advanceLoop 0),
    (⟨0⟩, .advanceLoop 0), (⟨1⟩, .ask (.publish (.deleted 7 "disk"))),
    (⟨1⟩, .advance 2), (⟨2⟩, .ask (.subscribe ⟨2, "mail"⟩)),
    (⟨3⟩, .answerScan 1 (.alarms [])), (⟨4⟩, .stop), (⟨5⟩, .start true)]

theorem hub_never_deadlocks_pileUp :
    HubConfig.standard.validate = .ok () ∧
      (∀ entry ∈ pileUpTimeline, entry.2 ≠ .ask .borrow) ∧
      ∃ hub, (create .standard).run pileUpTimeline = some hub ∧
        [.operation 4, .loop 0, .operation 1, .operation 3,
          .operation 2].IsChain hub.WaitsFor ∧
        hub.WaitsFor (.loop 1) (.loop 0) ∧
        hub.isOutside (.operation 2) = true ∧ hub.Unblocked := by
  refine ⟨rfl, by decide, _, rfl, ?_, ?_, rfl,
    hub_never_deadlocks .standard rfl pileUpTimeline _ (by decide) rfl⟩
  · refine .cons_cons (.joins 4 0 rfl rfl) (.cons_cons (.inside 0 1 rfl)
      (.cons_cons (.earlier 1 3 [3] [] rfl (by decide))
        (.cons_cons (.holder 3 2 (by decide) (by decide)) (.singleton _))))
  · exact .behind 1 0 false rfl rfl

end Hub
end AlarmRelay
