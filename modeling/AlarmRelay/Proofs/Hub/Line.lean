import AlarmRelay.Hub.Bids
import AlarmRelay.Proofs.Hub.Fate
import AlarmRelay.Proofs.Registry

/-!
# The line at the lock of a hub

What one event does to the line of those that hold the lock or wait for it: a bid
goes to its end, and whoever answers, reads the source or is dropped goes out of
it.  Listeners change only where the writer at its head answers.
-/

set_option autoImplicit false

namespace AlarmRelay

namespace Operation

/-- How an operation that asked for the lock looks until it gives it up. -/
inductive Becomes : Operation → Operation → Prop where
  | same (operation : Operation) : Becomes operation operation
  | carries (operation later : Operation) (delivery : Delivery)
      (first last : FanOut) (before : operation.fanOut? = some (delivery, first))
      (after : later.fanOut? = some (delivery, last)) : Becomes operation later

/-- The tick has found somebody and goes on without the lock, or with its
second bid for it. -/
def Further (operation : Operation) : Prop :=
  operation = .tick .scanning ∨
    ∃ delivery fanOut, operation.fanOut? = some (delivery, fanOut)

theorem lockSide?_fanOut (operation : Operation) (delivery : Delivery)
    (fanOut : FanOut) (carries : operation.fanOut? = some (delivery, fanOut)) :
    operation.lockSide? = some .shared := by
  obtain ⟨cause, rfl⟩ | ⟨alarms, rfl, rfl⟩ :=
    operation.fanOut?_cases delivery fanOut carries <;> rfl

theorem lockSide?_change (operation : Operation) (change : ScriptCall)
    (changes : operation.change? = some change) :
    operation.lockSide? = some .exclusive := by
  cases operation <;> first | rfl | cases changes

theorem fanOut?_change (operation : Operation) (change : ScriptCall)
    (changes : operation.change? = some change) : operation.fanOut? = none := by
  cases operation <;> first | rfl | cases changes

theorem change?_exclusive (operation : Operation)
    (exclusive : operation.lockSide? = some .exclusive) :
    operation.change?.isSome = true := by
  cases operation with
  | add listener => rfl
  | remove listener => rfl
  | tick phase => cases phase <;> cases exclusive
  | _ => cases exclusive

theorem change?_shared (operation : Operation)
    (shared : operation.lockSide? = some .shared) : operation.change? = none := by
  cases changes : operation.change? with
  | none => rfl
  | some change =>
      rw [operation.lockSide?_change change changes] at shared
      cases shared

theorem change?_read (operation : Operation) (listeners : List Listener)
    (reply : Reply) (read : operation.readReply? listeners = some reply) :
    operation.change? = none := by
  cases operation with
  | add listener => cases read
  | remove listener => cases read
  | _ => rfl

theorem becomes_trans (first second third : Operation)
    (one : first.Becomes second) (other : second.Becomes third) :
    first.Becomes third := by
  cases one with
  | same => exact other
  | carries _ delivery start middle before after =>
      cases other with
      | same => exact .carries _ _ delivery start middle before after
      | carries _ handed _ last again later =>
          rw [after] at again
          cases again
          exact .carries _ _ delivery start last before later

theorem becomes_lockSide (operation later : Operation)
    (becomes : operation.Becomes later) :
    later.lockSide? = operation.lockSide? := by
  cases becomes with
  | same => rfl
  | carries _ delivery first last before after =>
      rw [operation.lockSide?_fanOut delivery first before,
        later.lockSide?_fanOut delivery last after]

theorem further_motion (hub : Hub) (id : OperationId)
    (operation next : Operation) (heard : List CallOutcome)
    (motion : Hub.Motion hub id operation next heard)
    (further : operation.Further) : next.Further := by
  cases motion with
  | scans somebody => exact Or.inl rfl
  | fetches alarms => exact Or.inr ⟨_, _, rfl⟩
  | walks _ _ delivery held before after => exact Or.inr ⟨_, _, after⟩
  | hears _ _ delivery listener rest report outcome before after =>
      exact Or.inr ⟨_, _, after⟩

/-- Whatever carries no fan-out stays as it is. -/
theorem becomes_plain (operation later : Operation)
    (becomes : operation.Becomes later) (plain : later.fanOut? = none) :
    operation = later := by
  cases becomes with
  | same => rfl
  | carries _ delivery first last before after =>
      rw [plain] at after
      cases after

theorem becomes_fanOut (operation later : Operation) (delivery : Delivery)
    (fanOut : FanOut) (becomes : operation.Becomes later)
    (carries : later.fanOut? = some (delivery, fanOut)) :
    ∃ first, operation.fanOut? = some (delivery, first) := by
  cases becomes with
  | same => exact ⟨fanOut, carries⟩
  | carries _ handed first last before after =>
      rw [after] at carries
      cases carries
      exact ⟨first, before⟩

end Operation

/-- The request that a bid makes of the lock. -/
def Bid.request? (bid : Bid) : Option LockRequest :=
  bid.2.lockSide?.map fun mode => ⟨bid.1, mode⟩

theorem filterMap_range_single {α : Type} (view : Nat → Option α)
    (count place : Nat) (within : place < count)
    (elsewhere : ∀ other, other ≠ place → view other = none) :
    (List.range count).filterMap view = (view place).toList := by
  induction count with
  | zero => exact absurd within (Nat.not_lt_zero place)
  | succ count ih =>
      rw [List.range_succ, List.filterMap_append]
      rcases Nat.lt_succ_iff_lt_or_eq.mp within with before | here
      · have last : view count = none := elsewhere count (Nat.ne_of_gt before)
        rw [ih before]
        simp [last]
      · subst here
        have nothing : (List.range place).filterMap view = [] := by
          rw [List.filterMap_eq_nil_iff]
          intro other earlier
          exact elsewhere other (Nat.ne_of_lt (List.mem_range.mp earlier))
        rw [nothing]
        cases shown : view place <;> simp [shown]

namespace Hub

/-! ## New bids -/

theorem newBid?_eq_some (hub next : Hub) (id : OperationId) (bid : Bid) :
    hub.newBid? next id = some bid ↔
      id = bid.1 ∧ next.operation? id = some bid.2 ∧
        bid.2.lockSide?.isSome = true ∧
        (hub.operation? id).bind Operation.lockSide? = none := by
  obtain ⟨name, operation⟩ := bid
  unfold newBid?
  cases next.operation? id with
  | none => simp
  | some here =>
      simp only [Option.ite_none_right_eq_some, Bool.and_eq_true,
        Option.isNone_iff_eq_none, Option.some.injEq, Prod.mk.injEq]
      constructor
      · rintro ⟨⟨asks, before⟩, rfl, rfl⟩
        exact ⟨rfl, rfl, asks, before⟩
      · rintro ⟨rfl, rfl, asks, before⟩
        exact ⟨⟨asks, before⟩, rfl, rfl⟩

theorem mem_newBids (hub next : Hub) (bid : Bid) :
    bid ∈ hub.newBids next ↔
      bid.1 < next.nextOperation ∧ next.operation? bid.1 = some bid.2 ∧
        bid.2.lockSide?.isSome = true ∧
        (hub.operation? bid.1).bind Operation.lockSide? = none := by
  simp only [newBids, List.mem_filterMap, List.mem_range, newBid?_eq_some]
  constructor
  · rintro ⟨id, named, rfl, made⟩
    exact ⟨named, made⟩
  · rintro ⟨named, made⟩
    exact ⟨bid.1, named, rfl, made⟩

/-- Nobody bids who had bid before. -/
theorem newBids_nil (hub next : Hub)
    (asked : ∀ id later, next.operation? id = some later →
      later.lockSide?.isSome = true →
        (hub.operation? id).bind Operation.lockSide? = later.lockSide?) :
    hub.newBids next = [] := by
  rw [List.eq_nil_iff_forall_not_mem]
  intro bid member
  obtain ⟨_, found, asks, before⟩ := (hub.mem_newBids next bid).mp member
  rw [← asked bid.1 bid.2 found asks, before] at asks
  cases asks

theorem newBids_only (hub next : Hub) (id : OperationId) (operation : Operation)
    (named : id < next.nextOperation)
    (after : next.operation? id = some operation)
    (before : (hub.operation? id).bind Operation.lockSide? = none)
    (others : ∀ other, other ≠ id →
      next.operation? other = hub.operation? other) :
    hub.newBids next =
      (operation.lockSide?.map fun _ => (id, operation)).toList := by
  rw [newBids, filterMap_range_single _ _ id named]
  · cases asks : operation.lockSide? with
    | none =>
        simp [newBid?, after, asks]
    | some mode =>
        rw [(hub.newBid?_eq_some next id (id, operation)).mpr
          ⟨rfl, after, by simp [asks], before⟩]
        rfl
  · intro other different
    rw [Option.eq_none_iff_forall_ne_some]
    intro bid made
    obtain ⟨_, found, asks, nothing⟩ :=
      (hub.newBid?_eq_some next other bid).mp made
    rw [← others other different, found, Option.bind_some] at nothing
    rw [nothing] at asks
    cases asks

/-! ## Traffic -/

/-- What an event does to the line, in which the operations `gone` had their
places and lose them. -/
structure Traffic (hub : Hub) (event : HubEvent) (step : Progress)
    (gone : List OperationId) : Prop where
  line : step.hub.registry.lock.line =
    hub.registry.lock.line.filter (fun entry => !gone.contains entry.ticket) ++
      (hub.newBids step.hub).filterMap Bid.request?
  /-- A bid is a request of the lock. -/
  enters : ∀ bid ∈ hub.newBids step.hub, ∀ mode, bid.2.lockSide? = some mode →
    step.hub.registry.lock = hub.registry.lock.request bid.1 mode
  /-- Whoever stays in the line is still asking. -/
  kept : ∀ id, id ∉ gone → ∀ operation, hub.operation? id = some operation →
    operation.lockSide?.isSome = true →
      ∃ later, step.hub.operation? id = some later ∧ operation.Becomes later
  /-- Whoever goes out of the line is over or reads the source. -/
  left : ∀ id ∈ gone, step.hub.operation? id = none ∨
    (hub.operation? id = some (.tick .checking) ∧
      step.hub.operation? id = some (.tick .scanning))
  /-- It has been dropped, unless it held the lock. -/
  granted : ∀ id ∈ gone, ∀ operation, hub.operation? id = some operation →
    operation.lockSide?.isSome = true →
      .dropped id ∈ hub.marks event step ∨ id ∈ hub.registry.lock.readers ∨
        hub.registry.lock.writer = some id

theorem line_begin (hub : Hub) (operation : Operation) :
    (hub.begin operation).1.registry.lock.line =
      hub.registry.lock.line ++ (operation.firstLock.map fun mode =>
        (⟨hub.nextOperation, mode⟩ : LockRequest)).toList := by
  simp only [begin]
  cases operation.firstLock with
  | none => simp
  | some mode => exact FairLock.line_request _ _ mode

theorem line_forgotten (hub : Hub) (ids : List OperationId) :
    (ids.foldl forget hub).registry.lock.line =
      hub.registry.lock.line.filter (fun entry => !ids.contains entry.ticket) := by
  induction ids generalizing hub with
  | nil => exact (List.filter_eq_self.mpr (fun _ _ => rfl)).symm
  | cons id rest ih =>
      rw [List.foldl_cons, ih, forget_registry, Registry.leave,
        FairLock.line_leave, List.filter_filter]
      congr 1
      funext entry
      cases same : entry.ticket == id <;> simp_all [bne]

section

variable (hub : Hub) (event : HubEvent) (step : Progress)

theorem traffic_still (line : step.hub.registry.lock.line =
      hub.registry.lock.line ++ (hub.newBids step.hub).filterMap Bid.request?)
    (enters : ∀ bid ∈ hub.newBids step.hub, ∀ mode,
      bid.2.lockSide? = some mode →
        step.hub.registry.lock = hub.registry.lock.request bid.1 mode)
    (kept : ∀ id operation, hub.operation? id = some operation →
      operation.lockSide?.isSome = true →
        ∃ later, step.hub.operation? id = some later ∧
          operation.Becomes later) :
    Traffic hub event step [] where
  line := by
    rw [line]
    congr 1
    exact (List.filter_eq_self.mpr (fun _ _ => rfl)).symm
  enters := enters
  kept := fun id _ => kept id
  left := by intro id member; cases member
  granted := by intro id member; cases member

theorem traffic_begin (operation : Operation) (consistent : hub.Consistent)
    (first : operation.firstLock = operation.lockSide?)
    (registry : step.hub.registry = (hub.begin operation).1.registry)
    (operations : step.hub.operations = (hub.begin operation).1.operations)
    (nextOperation : step.hub.nextOperation = hub.nextOperation + 1) :
    Traffic hub event step [] := by
  have unborn := hub.absent_of_unborn hub.nextOperation consistent (Nat.le_refl _)
  have present := fun id =>
    hub.operation?_begun step.hub id operation operations
  have bids := hub.newBids_only step.hub hub.nextOperation operation
    (by rw [nextOperation]; exact Nat.lt_succ_self _)
    (by simp [present, unborn]) (by simp [unborn])
    (by intro other different; simp [present, different])
  apply hub.traffic_still
  · rw [registry, line_begin, bids, first]
    cases asks : operation.lockSide? <;> simp [Bid.request?, asks]
  · intro bid member mode asks
    rw [bids] at member
    obtain ⟨_, _, rfl⟩ := Option.map_eq_some_iff.mp (Option.mem_toList.mp member)
    rw [registry, begin, first, asks]
    rfl
  · intro id other found asks
    exact ⟨other, by rw [present, found, Option.some_or], .same other⟩

theorem traffic_forget (gone : List OperationId)
    (line : step.hub.registry.lock.line =
      hub.registry.lock.line.filter fun entry => !gone.contains entry.ticket)
    (after : ∀ id, step.hub.operation? id =
      if id ∈ gone then none else hub.operation? id)
    (granted : ∀ id ∈ gone, ∀ operation, hub.operation? id = some operation →
      operation.lockSide?.isSome = true →
        .dropped id ∈ hub.marks event step ∨ id ∈ hub.registry.lock.readers ∨
          hub.registry.lock.writer = some id) :
    Traffic hub event step gone := by
  have bids : hub.newBids step.hub = [] := by
    apply newBids_nil
    intro id later found asks
    rw [after] at found
    split at found
    · cases found
    · rw [found, Option.bind_some]
  refine ⟨?_, ?_, ?_, ?_, granted⟩
  · rw [line, bids, List.filterMap_nil, List.append_nil]
  · rw [bids]
    intro bid member
    cases member
  · intro id here operation found _
    exact ⟨operation, by rw [after, if_neg here, found], .same operation⟩
  · intro id member
    exact Or.inl (by rw [after, if_pos member])

theorem traffic_lost (ids : List OperationId)
    (same : step.hub.Alike (ids.foldl forget hub)) (silent : step.reply = none) :
    Traffic hub event step ids := by
  have after := fun id => hub.operation?_lost step.hub ids id same
  refine hub.traffic_forget event step ids ?_ after ?_
  · rw [same.registry]
    exact hub.line_forgotten ids
  · intro id member operation found _
    refine Or.inl ((hub.mem_dropped event step id).mpr ⟨?_, ?_, silent⟩)
    · exact (hub.mem_inFlight id).mpr ⟨operation, found⟩
    · rw [← absent_iff, after, if_pos member]

theorem traffic_carries (id : OperationId) (operation next : Operation)
    (delivery : Delivery) (first last : FanOut)
    (found : hub.operation? id = some operation)
    (before : operation.fanOut? = some (delivery, first))
    (after : next.fanOut? = some (delivery, last))
    (same : step.hub.Alike (hub.putOperation id next)) :
    Traffic hub event step [] := by
  have present := fun other =>
    hub.operation?_moved step.hub hub.registry id other operation next found same
  have bids : hub.newBids step.hub = [] := by
    apply newBids_nil
    intro other later here asks
    rw [present] at here
    split at here
    · rename_i named
      cases here
      rw [named, found, Option.bind_some,
        operation.lockSide?_fanOut delivery first before,
        next.lockSide?_fanOut delivery last after]
    · rw [here, Option.bind_some]
  apply hub.traffic_still
  · rw [same.registry, bids]
    simp [putOperation]
  · rw [bids]
    intro bid member
    cases member
  · intro other standing here _
    rw [present]
    split
    · rename_i named
      rw [named, found] at here
      cases here
      exact ⟨next, rfl, .carries _ _ delivery first last before after⟩
    · exact ⟨standing, here, .same standing⟩

/-- A tick that found somebody gives up its place and reads the source. -/
theorem traffic_scans (id : OperationId)
    (found : hub.operation? id = some (.tick .checking))
    (held : hub.registry.lock.holdsShared id = true)
    (same : step.hub.Alike
      ({ hub with registry := hub.registry.leave id }.putOperation id
        (.tick .scanning))) :
    Traffic hub event step [id] := by
  have present := fun other =>
    hub.operation?_moved step.hub _ id other _ _ found same
  have bids : hub.newBids step.hub = [] := by
    apply newBids_nil
    intro other later here asks
    rw [present] at here
    split at here
    · cases here
      cases asks
    · rw [here, Option.bind_some]
  refine ⟨?_, ?_, ?_, ?_, ?_⟩
  · have lock : step.hub.registry.lock = hub.registry.lock.leave id := by
      rw [same.registry]
      rfl
    rw [lock, FairLock.line_leave, bids, List.filterMap_nil, List.append_nil]
    congr 1
    funext entry
    simp [bne, Bool.beq_eq_decide_eq]
  · rw [bids]
    intro bid member
    cases member
  · intro other here operation standing _
    rw [present, if_neg (by simpa using here)]
    exact ⟨operation, standing, .same operation⟩
  · intro other member
    rw [List.mem_singleton.mp member, present, if_pos rfl]
    exact Or.inr ⟨found, rfl⟩
  · intro other member operation _ _
    rw [List.mem_singleton.mp member]
    exact Or.inr (Or.inl ((hub.holdsShared_iff id).mp held))

theorem traffic_fetches (id : OperationId) (alarms : List Alarm)
    (consistent : hub.Consistent)
    (found : hub.operation? id = some (.tick .scanning))
    (same : step.hub.Alike
      ({ hub with registry := hub.registry.request id .shared }.putOperation
        id (.tick (.delivering alarms .awaitingLock)))) :
    Traffic hub event step [] := by
  have present := fun other =>
    hub.operation?_moved step.hub _ id other _ _ found same
  have named : id < step.hub.nextOperation := by
    rw [same.nextOperation]
    exact consistent.named id ((hub.mem_inFlight id).mpr ⟨_, found⟩)
  have bids := hub.newBids_only step.hub id
    (.tick (.delivering alarms .awaitingLock)) named
    (by rw [present, if_pos rfl]) (by rw [found]; rfl)
    (by intro other different; rw [present, if_neg different])
  have lock : step.hub.registry.lock = hub.registry.lock.request id .shared := by
    rw [same.registry]
    rfl
  apply hub.traffic_still
  · rw [lock, FairLock.line_request, bids]
    simp [Bid.request?, Operation.lockSide?]
  · intro bid member mode asks
    rw [bids] at member
    cases List.mem_singleton.mp member
    cases asks
    exact lock
  · intro other operation standing asks
    rw [present]
    split
    · rename_i here
      rw [here, found] at standing
      cases standing
      cases asks
    · exact ⟨operation, standing, .same operation⟩

end

/-- Whoever answers and had a place in the line held the lock. -/
theorem answer_granted (hub : Hub) (id : OperationId) (operation : Operation)
    (registry : Registry) (reply : Reply) (consistent : hub.Consistent)
    (found : hub.operation? id = some operation)
    (answer : Answer hub id operation registry reply)
    (asks : operation.lockSide?.isSome = true) :
    id ∈ hub.registry.lock.readers ∨ hub.registry.lock.writer = some id := by
  cases answer with
  | joins listener held =>
      exact Or.inr (by simpa [FairLock.holdsExclusive] using held)
  | parts listener held =>
      exact Or.inr (by simpa [FairLock.holdsExclusive] using held)
  | reads _ _ held read => exact Or.inl ((hub.holdsShared_iff id).mp held)
  | exits loop isOver => cases asks
  | ends _ delivery report _ before reported =>
      exact Or.inl (consistent.walking id operation delivery [] report found
        before).1
  | fails message => cases asks

theorem turn_traffic (hub : Hub) (event : HubEvent) (step : Progress)
    (consistent : hub.Consistent) (turn : Turn hub step event) :
    ∃ gone, Traffic hub event step gone := by
  cases turn with
  | rests _ same idle unheard =>
      refine ⟨[], hub.traffic_forget event step [] ?_
        (fun id => hub.operation?_lost step.hub [] id same) ?_⟩
      · rw [same.registry]
        exact hub.line_forgotten []
      · intro id member
        cases member
  | asks request same silent =>
      have first : request.operation.firstLock =
          request.operation.lockSide? := by
        cases request <;> rfl
      exact ⟨[], hub.traffic_begin _ step request.operation consistent first
        same.registry same.operations same.nextOperation⟩
  | stops loop owned same silent =>
      exact ⟨[], hub.traffic_begin _ step (.awaitExit loop) consistent rfl
        same.registry same.operations same.nextOperation⟩
  | ticks loop first last live registry operations nextOperation before after
      idle silent =>
      exact ⟨[], hub.traffic_begin _ step (.tick .checking) consistent rfl
        registry operations nextOperation⟩
  | answers _ id operation registry reply drives found answer same replied =>
      obtain ⟨lock, _⟩ := hub.answer_registry id operation registry reply answer
      refine ⟨[id], hub.traffic_forget event step [id] ?_ ?_ ?_⟩
      · have left : step.hub.registry.lock = registry.lock.leave id := by
          rw [same.registry]
          rfl
        rw [left, FairLock.line_leave, lock]
        congr 1
        funext entry
        simp [bne, Bool.beq_eq_decide_eq]
      · intro other
        rw [hub.operation?_left step.hub registry id other same]
        simp only [List.mem_singleton]
      · intro other member standing here asks
        rw [List.mem_singleton.mp member] at here ⊢
        rw [found] at here
        cases here
        exact Or.inr (hub.answer_granted id operation registry reply consistent
          found answer asks)
  | fails id outcome message found same replied =>
      refine ⟨[id], hub.traffic_forget _ step [id] ?_
        (fun other => hub.operation?_lost step.hub [id] other same) ?_⟩
      · rw [same.registry]
        exact hub.line_forgotten [id]
      · intro other member standing here asks
        rw [List.mem_singleton.mp member, found] at here
        cases here
        cases asks
  | scans _ id drives found held somebody same silent =>
      exact ⟨[id], hub.traffic_scans event step id found held same⟩
  | fetches id alarms found same silent =>
      exact ⟨[], hub.traffic_fetches _ step id alarms consistent found same⟩
  | walks _ id operation next delivery drives found held before after same
      silent =>
      exact ⟨[], hub.traffic_carries event step id operation next delivery _ _
        found before after same⟩
  | hears id operation next delivery listener rest report outcome found before
      after same silent =>
      exact ⟨[], hub.traffic_carries _ step id operation next delivery _ _
        found before after same⟩
  | drops id caller same silent =>
      exact ⟨[id], hub.traffic_lost _ step [id] same silent⟩
  | loses ids ticking same silent =>
      exact ⟨ids, hub.traffic_lost _ step ids same silent⟩

/-! ## Changes of membership -/

/-- What an event does to the listeners and to those that mean to change them. -/
inductive Change (hub : Hub) (event : HubEvent) (step : Progress) : Prop where
  /-- The listeners stay, and whoever means to change them still does or has been
  dropped. -/
  | keeps (listeners : step.hub.registry.listeners = hub.registry.listeners)
      (pending : ∀ id operation change, hub.operation? id = some operation →
        operation.change? = some change →
          step.hub.operation? id = some operation ∨
            .dropped id ∈ hub.marks event step)
  /-- The holder of the exclusive side makes its change and answers. -/
  | makes (id : OperationId) (operation : Operation) (change : ScriptCall)
      (found : hub.operation? id = some operation)
      (changes : operation.change? = some change)
      (held : hub.registry.lock.writer = some id)
      (gone : step.hub.operation? id = none) (replied : step.reply.isSome = true)
      (listeners : step.hub.registry.listeners =
        change.members hub.registry.listeners)
      (pending : ∀ other standing later, other ≠ id →
        hub.operation? other = some standing → standing.change? = some later →
          step.hub.operation? other = some standing)

theorem answer_change (hub : Hub) (id : OperationId) (operation : Operation)
    (registry : Registry) (reply : Reply) (change : ScriptCall)
    (answer : Answer hub id operation registry reply)
    (changes : operation.change? = some change) :
    hub.registry.lock.writer = some id ∧
      registry.listeners = change.members hub.registry.listeners := by
  cases answer with
  | joins listener held =>
      cases changes
      refine ⟨by simpa [FairLock.holdsExclusive] using held, ?_⟩
      exact hub.registry.add_members listener
  | parts listener held =>
      cases changes
      exact ⟨by simpa [FairLock.holdsExclusive] using held, rfl⟩
  | reads _ _ held read =>
      rw [operation.change?_read _ reply read] at changes
      cases changes
  | exits loop isOver => cases changes
  | ends _ delivery report _ before reported =>
      obtain ⟨cause, rfl⟩ | ⟨alarms, _, rfl⟩ :=
        operation.fanOut?_cases delivery _ before <;> cases changes
  | fails message => cases changes

theorem motion_change (hub : Hub) (id : OperationId)
    (operation next : Operation) (heard : List CallOutcome)
    (motion : Motion hub id operation next heard) :
    operation.change? = none := by
  have carrier : ∀ delivery fanOut,
      operation.fanOut? = some (delivery, fanOut) → operation.change? = none := by
    intro delivery fanOut carries
    exact operation.change?_shared
      (operation.lockSide?_fanOut delivery fanOut carries)
  cases motion with
  | scans somebody => rfl
  | fetches alarms => rfl
  | walks _ _ delivery held before after => exact carrier delivery _ before
  | hears _ _ delivery listener rest report outcome before after =>
      exact carrier delivery _ before

theorem answer_plain (hub : Hub) (id : OperationId) (operation : Operation)
    (registry : Registry) (reply : Reply)
    (answer : Answer hub id operation registry reply)
    (plain : operation.change? = none) :
    registry.listeners = hub.registry.listeners := by
  cases answer with
  | joins listener held => cases plain
  | parts listener held => cases plain
  | _ => rfl

section

variable (hub : Hub) (event : HubEvent) (step : Progress)

/-- Whoever means to change the listeners waits while somebody else does. -/
theorem change_waits (id other : OperationId) (operation : Operation)
    (change : ScriptCall) (fate : Fate hub event step other)
    (held : hub.registry.lock.writer = some id) (different : other ≠ id)
    (replied : step.reply.isSome = true)
    (found : hub.operation? other = some operation)
    (changes : operation.change? = some change) :
    step.hub.operation? other = some operation := by
  cases fate with
  | stays same began ended => rw [same, found]
  | begins _ named calm before after began ended =>
      rw [found] at before
      cases before
  | moves _ next heard motion before after began ended outcomes =>
      rw [found] at before
      cases before
      rw [hub.motion_change other _ next heard motion] at changes
      cases changes
  | answers _ registry reply answer before after listeners shown began ended =>
      rw [found] at before
      cases before
      have writes :=
        (hub.answer_change other operation registry reply change answer changes).1
      rw [held] at writes
      cases writes
      exact absurd rfl different
  | drops _ before after silent began ended =>
      rw [silent] at replied
      cases replied

theorem change_made (id : OperationId) (operation : Operation)
    (change : ScriptCall) (fate : ∀ id, Fate hub event step id)
    (found : hub.operation? id = some operation)
    (changes : operation.change? = some change)
    (gone : step.hub.operation? id = none) (replied : step.reply.isSome = true) :
    Change hub event step := by
  cases fate id with
  | answers first registry reply answer before after listeners shown began
      ended =>
      rw [found] at before
      cases before
      obtain ⟨held, members⟩ :=
        hub.answer_change id operation registry reply change answer changes
      exact .makes id operation change found changes held gone replied
        (listeners.trans members) fun other standing later different =>
          hub.change_waits event step id other standing later (fate other) held
            different replied
  | stays same began ended =>
      rw [gone, found] at same
      cases same
  | begins _ named calm before after began ended =>
      rw [gone] at after
      cases after
  | moves _ next heard motion before after began ended outcomes =>
      rw [gone] at after
      cases after
  | drops _ before after silent began ended =>
      rw [silent] at replied
      cases replied

theorem turn_listeners (turn : Turn hub step event)
    (unmade : ∀ id operation change, hub.operation? id = some operation →
      operation.change? = some change → step.hub.operation? id = none →
        step.reply = none) :
    step.hub.registry.listeners = hub.registry.listeners := by
  cases turn with
  | answers _ id operation registry reply drives found answer same replied =>
      have gone : step.hub.operation? id = none := by
        rw [hub.operation?_left step.hub registry id id same, if_pos rfl]
      rw [same.registry]
      apply hub.answer_plain id operation registry reply answer
      cases changes : operation.change? with
      | none => rfl
      | some change =>
          rw [unmade id operation change found changes gone] at replied
          cases replied
  | asks request same silent => rw [same.registry, begin_listeners]
  | stops loop owned same silent => rw [same.registry, begin_listeners]
  | ticks loop first last live registry operations nextOperation before after
      idle silent => rw [registry, begin_listeners]
  | loses ids ticking same silent => rw [same.registry, listeners_forgotten]
  | rests _ same => rw [same.registry]
  | fails id outcome message found same =>
      rw [same.registry]
      rfl
  | scans _ id drives found held somebody same =>
      rw [same.registry]
      rfl
  | fetches id alarms found same =>
      rw [same.registry]
      rfl
  | walks _ id operation next delivery drives found held before after same =>
      rw [same.registry]
      rfl
  | hears id operation next delivery listener rest report outcome found before
      after same =>
      rw [same.registry]
      rfl
  | drops id caller same =>
      rw [same.registry]
      rfl

theorem change_pending (id : OperationId) (operation : Operation)
    (change : ScriptCall) (fate : Fate hub event step id)
    (found : hub.operation? id = some operation)
    (changes : operation.change? = some change)
    (unmade : step.hub.operation? id = none → step.reply = none) :
    step.hub.operation? id = some operation ∨
      .dropped id ∈ hub.marks event step := by
  cases fate with
  | stays same began ended => exact Or.inl (by rw [same, found])
  | begins _ named calm before after began ended =>
      rw [found] at before
      cases before
  | moves _ next heard motion before after began ended outcomes =>
      rw [found] at before
      cases before
      rw [hub.motion_change id _ next heard motion] at changes
      cases changes
  | answers _ registry reply answer before after listeners replied began ended =>
      rw [unmade after] at replied
      cases replied
  | drops _ before after silent began ended =>
      refine Or.inr ((hub.mem_dropped event step id).mpr ⟨?_, ?_, silent⟩)
      · exact (hub.mem_inFlight id).mpr ⟨operation, found⟩
      · exact (step.hub.absent_iff id).mp after

end

theorem react_change (hub : Hub) (now : Instant) (event : HubEvent)
    (step : Progress) (consistent : hub.Consistent)
    (reacted : hub.react now event = some step) : Change hub event step := by
  have turn := hub.react_turn now event step reacted
  have fate := fun id => hub.turn_fate event step id consistent turn
  by_cases made : ∃ id operation change, hub.operation? id = some operation ∧
      operation.change? = some change ∧ step.hub.operation? id = none ∧
        step.reply.isSome = true
  · obtain ⟨id, operation, change, found, changes, gone, replied⟩ := made
    exact hub.change_made event step id operation change fate found changes gone
      replied
  · have unmade : ∀ id operation change, hub.operation? id = some operation →
        operation.change? = some change → step.hub.operation? id = none →
          step.reply = none := by
      intro id operation change found changes gone
      cases replied : step.reply with
      | none => rfl
      | some reply =>
          exact absurd ⟨id, operation, change, found, changes, gone,
            by rw [replied]; rfl⟩ made
    exact .keeps (hub.turn_listeners event step turn unmade)
      fun id operation change found changes =>
        hub.change_pending event step id operation change (fate id) found changes
          (unmade id operation change found changes)

end Hub
end AlarmRelay
