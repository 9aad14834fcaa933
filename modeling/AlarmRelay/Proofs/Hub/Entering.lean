import AlarmRelay.Proofs.Hub.Ledger

/-!
# One event in the ledger

New bids are entered at the end of the ledger, and whoever goes out of the line
keeps its place there.  Everything that the ledger says survives that, as a writer
makes its change only when nobody stands before it.
-/

set_option autoImplicit false

namespace AlarmRelay.Hub.Ledger

/-- The slots after an event in which `gone` went out of the line. -/
def next (hub : Hub) (step : Progress) (gone : List OperationId)
    (slots : List Slot) : List Slot :=
  slots.map (Slot.leave gone) ++
    (hub.newBids step.hub).map fun bid => ⟨bid, true⟩

theorem fresh_stands (bids : List Bid) (slot : Slot)
    (member : slot ∈ bids.map fun bid => ⟨bid, true⟩) : slot.stands = true := by
  obtain ⟨bid, _, rfl⟩ := List.mem_map.mp member
  rfl

theorem newBids_apart (hub next : Hub) :
    (hub.newBids next).Pairwise fun first second => first.1 ≠ second.1 := by
  rw [newBids, List.pairwise_filterMap]
  apply List.nodup_range.imp
  intro first second different one made other also same
  have left := ((hub.newBid?_eq_some next first one).mp made).1
  have right := ((hub.newBid?_eq_some next second other).mp also).1
  exact different (left.trans (same.trans right.symm))

/-- A slot that stands no more is an earlier one, and so is all before it. -/
theorem next_split (hub : Hub) (step : Progress) (gone : List OperationId)
    (slots before after : List Slot) (slot : Slot)
    (split : next hub step gone slots = before ++ slot :: after)
    (stands : slot.stands = false) :
    ∃ first old last, slots = first ++ old :: last ∧
      before = first.map (Slot.leave gone) ∧ slot = old.leave gone := by
  rcases List.append_eq_append_iff.mp split with
    ⟨seen, _, fresh⟩ | ⟨seen, old, fresh⟩
  · have member : slot ∈ (hub.newBids step.hub).map fun bid =>
        (⟨bid, true⟩ : Slot) := by
      rw [fresh]
      simp
    rw [fresh_stands _ slot member] at stands
    cases stands
  · cases seen with
    | nil =>
        have member : slot ∈ (hub.newBids step.hub).map fun bid =>
            (⟨bid, true⟩ : Slot) := by
          rw [List.nil_append] at fresh
          rw [← fresh]
          exact List.mem_cons_self
        rw [fresh_stands _ slot member] at stands
        cases stands
    | cons head rest =>
        rw [List.cons_append, List.cons.injEq] at fresh
        obtain ⟨rfl, _⟩ := fresh
        obtain ⟨first, others, rfl, rfl, left⟩ := List.map_eq_append_iff.mp old
        obtain ⟨here, last, rfl, rfl, _⟩ := List.map_eq_cons_iff.mp left
        exact ⟨first, here, last, rfl, rfl, rfl⟩

section

variable {hub : Hub} {journal : List Mark} {slots : List Slot}
  {now : Instant} {event : HubEvent} {step : Progress}
  {gone : List OperationId} (ledger : hub.Ledger journal slots)

include ledger

theorem dropped_past (slot : Slot) (member : slot ∈ slots)
    (stands : slot.stands = false)
    (changes : slot.bid.2.change?.isSome = true) :
    .dropped slot.bid.1 ∈ journal ++ hub.marks event step ↔
      .dropped slot.bid.1 ∈ journal := by
  refine ⟨?_, List.mem_append_left _⟩
  intro dropped
  rcases List.mem_append.mp dropped with old | new
  · exact old
  · have current := ((hub.mem_dropped event step _).mp new).1
    have absent := ledger.past_change slot member stands changes
    exact absurd current ((hub.absent_iff _).mp absent)

theorem named_next (reacted : hub.react now event = some step) (slot : Slot)
    (member : slot ∈ next hub step gone slots) :
    slot.bid.1 < step.hub.nextOperation := by
  rcases List.mem_append.mp member with before | fresh
  · obtain ⟨old, present, rfl⟩ := List.mem_map.mp before
    exact Nat.lt_of_lt_of_le (ledger.named old present)
      (hub.flow_names step.hub (hub.react_flow now event step reacted)).1
  · obtain ⟨bid, present, rfl⟩ := List.mem_map.mp fresh
    exact ((hub.mem_newBids step.hub bid).mp present).1

theorem asks_next (slot : Slot) (member : slot ∈ next hub step gone slots) :
    slot.bid.2.lockSide?.isSome = true := by
  rcases List.mem_append.mp member with before | fresh
  · obtain ⟨old, present, rfl⟩ := List.mem_map.mp before
    exact ledger.asks old present
  · obtain ⟨bid, present, rfl⟩ := List.mem_map.mp fresh
    exact ((hub.mem_newBids step.hub bid).mp present).2.2.1

theorem apart_next :
    (next hub step gone slots).Pairwise fun first second =>
      first.bid.1 = second.bid.1 → first.stands = false := by
  rw [next, List.pairwise_append]
  refine ⟨?_, ?_, ?_⟩
  · rw [List.pairwise_map]
    apply ledger.apart.imp
    intro first second apart same
    have stood : first.stands = false := apart same
    simp [Slot.leave, stood]
  · rw [List.pairwise_map]
    apply (newBids_apart hub step.hub).imp
    intro first second different same
    exact absurd same different
  · intro first member second fresh same
    obtain ⟨old, present, rfl⟩ := List.mem_map.mp member
    obtain ⟨bid, new, rfl⟩ := List.mem_map.mp fresh
    -- A bid is made by an operation that stands nowhere.
    have named : old.bid.1 = bid.1 := same
    have idle := ((hub.mem_newBids step.hub bid).mp new).2.2.2
    cases stood : old.stands with
    | false => simp [Slot.leave, stood]
    | true =>
        obtain ⟨operation, found, becomes⟩ := ledger.standing old present stood
        have asks := ledger.asks old present
        rw [← named, found, Option.bind_some,
          old.bid.2.becomes_lockSide operation becomes] at idle
        rw [idle] at asks
        cases asks

variable (traffic : Traffic hub event step gone)

include traffic

theorem made_quiet (slot : Slot) (member : slot ∈ slots)
    (quiet : slot.stands = true → slot.bid.2.change?.isSome = true →
      step.hub.operation? slot.bid.1 = some slot.bid.2 ∨
        .dropped slot.bid.1 ∈ hub.marks event step) :
    (slot.leave gone).made? (journal ++ hub.marks event step) =
      slot.made? journal := by
  cases changes : slot.bid.2.change? with
  | none => simp [Slot.made?, changes]
  | some change =>
      have wanted : slot.bid.2.change?.isSome = true := by rw [changes]; rfl
      cases stands : slot.stands with
      | false =>
          have same : .dropped slot.bid.1 ∈ journal ++ hub.marks event step ↔
              .dropped slot.bid.1 ∈ journal :=
            ledger.dropped_past slot member stands wanted
          have left : (slot.leave gone).stands = false := by
            simp [Slot.leave, stands]
          simp only [Slot.made?, Slot.leave_bid, same, left, stands]
      | true =>
          rw [slot.made?_standing journal stands]
          rcases quiet stands wanted with present | dropped
          · apply Slot.made?_standing
            rw [Slot.leave_stands]
            refine ⟨stands, ?_⟩
            intro lost
            rcases traffic.left _ lost with ceased | ⟨_, scans⟩
            · rw [ceased] at present
              cases present
            · rw [scans] at present
              rw [← Option.some.inj present] at changes
              cases changes
          · simp [Slot.made?, dropped]

/-- A writer that answers goes out of the line without being dropped. -/
theorem made_writer (told : hub.Told journal) (slot : Slot)
    (member : slot ∈ slots) (stands : slot.stands = true)
    (operation : Operation) (made : ScriptCall)
    (found : hub.operation? slot.bid.1 = some operation)
    (means : operation.change? = some made)
    (ceased : step.hub.operation? slot.bid.1 = none)
    (replied : step.reply.isSome = true) :
    (slot.leave gone).made? (journal ++ hub.marks event step) = some made := by
  obtain ⟨standing, present, becomes⟩ := ledger.standing slot member stands
  rw [found] at present
  cases present
  have same := slot.bid.2.becomes_plain operation becomes
    (operation.fanOut?_change made means)
  have lost : slot.bid.1 ∈ gone := by
    apply Decidable.byContradiction
    intro stays
    obtain ⟨later, still, _⟩ := traffic.kept _ stays operation found
      (by rw [operation.lockSide?_change made means]; rfl)
    rw [ceased] at still
    cases still
  have undropped : .dropped slot.bid.1 ∉ journal ++ hub.marks event step := by
    intro dropped
    rcases List.mem_append.mp dropped with old | new
    · rw [(told.isOver _ (Or.inl old)).1] at found
      cases found
    · rw [((hub.mem_dropped event step _).mp new).2.2] at replied
      cases replied
  have left : (slot.leave gone).stands = false := by simp [Slot.leave, lost]
  simp only [Slot.made?, left, Slot.leave_bid, undropped, same, means,
    Bool.false_eq_true, or_self, if_false]

section

variable (change : Change hub event step)

include change

/-- Only the writer makes a change. -/
theorem made_next (slot : Slot) (member : slot ∈ slots)
    (other : slot.stands = true →
      hub.registry.lock.writer ≠ some slot.bid.1) :
    (slot.leave gone).made? (journal ++ hub.marks event step) =
      slot.made? journal := by
  apply ledger.made_quiet traffic slot member
  intro stands wanted
  have present := ledger.standing_change slot member stands wanted
  obtain ⟨call, changes⟩ := Option.isSome_iff_exists.mp wanted
  cases change with
  | keeps listeners pending =>
      exact pending slot.bid.1 slot.bid.2 call present changes
  | makes id operation made found means held ceased replied listeners pending =>
      refine Or.inl (pending slot.bid.1 slot.bid.2 call ?_ present changes)
      intro same
      exact other stands (by rw [held, same])

/-- Beside the writer, what was made before it stays made, and nothing is made behind
it. -/
theorem made_beside (before after : List Slot) (slot : Slot)
    (split : slots = before ++ slot :: after) (stands : slot.stands = true)
    (held : hub.registry.lock.writer = some slot.bid.1) :
    before.filterMap (Slot.made? (journal ++ hub.marks event step) ∘
        Slot.leave gone) = before.filterMap (Slot.made? journal) ∧
      after.filterMap (Slot.made? (journal ++ hub.marks event step) ∘
        Slot.leave gone) = [] := by
  have single := ledger.apart
  rw [split, List.pairwise_append, List.pairwise_cons] at single
  have quiet : ∀ other ∈ slots, (other.stands = true →
      other.bid.1 ≠ slot.bid.1) →
        (other.leave gone).made? (journal ++ hub.marks event step) =
          other.made? journal := by
    intro other present different
    apply ledger.made_next traffic change other present
    intro standing writes
    rw [held] at writes
    exact different standing (Option.some.inj writes).symm
  constructor
  · apply List.filterMap_congr
    intro other present
    apply quiet other (by rw [split]; exact List.mem_append_left _ present)
    intro standing same
    have lost := single.2.2 other present slot List.mem_cons_self same
    rw [standing] at lost
    cases lost
  · rw [← ledger.unmade_behind before after slot split stands]
    apply List.filterMap_congr
    intro other present
    apply quiet other (by
      rw [split]
      exact List.mem_append_right _ (List.mem_cons_of_mem _ present))
    intro _ same
    rw [single.2.1.1 other present same.symm] at stands
    cases stands

theorem members_next (told : hub.Told journal) :
    step.hub.registry.listeners = Script.members []
      ((next hub step gone slots).filterMap
        (Slot.made? (journal ++ hub.marks event step))) := by
  have fresh : ((hub.newBids step.hub).map fun bid => (⟨bid, true⟩ : Slot)
      ).filterMap (Slot.made? (journal ++ hub.marks event step)) = [] := by
    rw [List.filterMap_eq_nil_iff]
    intro slot member
    exact Slot.made?_standing _ _ (fresh_stands _ slot member)
  rw [next, List.filterMap_append, fresh, List.append_nil, List.filterMap_map]
  have changed := change
  cases change with
  | keeps listeners pending =>
      rw [listeners, ledger.members]
      congr 1
      apply List.filterMap_congr
      intro slot member
      refine (ledger.made_quiet traffic slot member ?_).symm
      intro stands wanted
      obtain ⟨call, changes⟩ := Option.isSome_iff_exists.mp wanted
      exact pending slot.bid.1 slot.bid.2 call
        (ledger.standing_change slot member stands wanted) changes
  | makes id operation made found means held ceased replied listeners pending =>
      obtain ⟨slot, member, stands, rfl, _⟩ := ledger.slot_of_line ⟨id, .exclusive⟩
        (FairLock.mem_line_writer _ id held)
      obtain ⟨before, after, split⟩ := List.append_of_mem member
      obtain ⟨first, last⟩ := ledger.made_beside traffic changed before after slot
        split stands held
      have own : (Slot.made? (journal ++ hub.marks event step) ∘
          Slot.leave gone) slot = some made :=
        ledger.made_writer traffic told slot member stands operation made found
          means ceased replied
      have nothing := slot.made?_standing journal stands
      rw [listeners, ledger.members, split, List.filterMap_append,
        List.filterMap_cons_none nothing,
        ledger.unmade_behind before after slot split stands, List.filterMap_append,
        List.filterMap_cons_some own, first, last, List.append_nil,
        Script.members_append]
      rfl

theorem ahead_next (consistent : hub.Consistent) :
    (next hub step gone slots).Pairwise fun first second =>
      first.stands = true →
        second.made? (journal ++ hub.marks event step) = none := by
  rw [next, List.pairwise_append]
  have fresh : ∀ slot ∈ (hub.newBids step.hub).map fun bid =>
      (⟨bid, true⟩ : Slot),
      slot.made? (journal ++ hub.marks event step) = none :=
    fun slot member => Slot.made?_standing _ _ (fresh_stands _ slot member)
  refine ⟨?_, ?_, ?_⟩
  · rw [List.pairwise_map]
    apply (ledger.ahead.and (ledger.overtakes consistent)).imp_of_mem
    intro first second _ other order stands
    have stood := ((first.leave_stands gone).mp stands).1
    rw [ledger.made_next traffic change second other
      (fun standing => (order.2 stood standing).1)]
    exact order.1 stood
  · exact List.pairwise_of_forall_mem_list fun _ _ second member _ =>
      fresh second member
  · exact fun _ _ second member _ => fresh second member

end

theorem line_next :
    step.hub.registry.lock.line =
      (next hub step gone slots).filterMap Slot.request? := by
  rw [traffic.line, ledger.line, next, List.filterMap_append, List.filterMap_map,
    List.filterMap_map, List.filter_filterMap]
  congr 1
  apply List.filterMap_congr
  intro slot _
  exact slot.filter_request? gone

theorem standing_next (slot : Slot) (member : slot ∈ next hub step gone slots)
    (stands : slot.stands = true) :
    ∃ operation, step.hub.operation? slot.bid.1 = some operation ∧
      slot.bid.2.Becomes operation := by
  rcases List.mem_append.mp member with before | fresh
  · obtain ⟨old, present, rfl⟩ := List.mem_map.mp before
    obtain ⟨stood, stays⟩ := (old.leave_stands gone).mp stands
    obtain ⟨operation, found, becomes, asks⟩ := ledger.standing_asks old present stood
    obtain ⟨later, after, moves⟩ := traffic.kept _ stays operation found asks
    exact ⟨later, after, old.bid.2.becomes_trans operation later becomes moves⟩
  · obtain ⟨bid, present, rfl⟩ := List.mem_map.mp fresh
    exact ⟨bid.2, ((hub.mem_newBids step.hub bid).mp present).2.1, .same bid.2⟩

theorem behind_next (consistent : hub.Consistent) :
    (next hub step gone slots).Pairwise fun first second =>
      first.bid.2.change?.isSome = true → first.stands = true →
        second.stands = true ∨
          .dropped second.bid.1 ∈ journal ++ hub.marks event step := by
  rw [next, List.pairwise_append]
  refine ⟨?_, ?_, ?_⟩
  · rw [List.pairwise_map]
    apply (ledger.behind.and (ledger.overtakes consistent)).imp_of_mem
    intro first second _ other order changes stands
    have stood := ((first.leave_stands gone).mp stands).1
    rcases order.1 changes stood with standing | dropped
    · by_cases lost : second.bid.1 ∈ gone
      · -- Whoever is served goes past nobody who is still to make a change.
        obtain ⟨operation, found, _, asks⟩ :=
          ledger.standing_asks second other standing
        obtain ⟨writer, readers⟩ := order.2 stood standing
        rcases traffic.granted _ lost operation found asks with
          dropped | reads | writes
        · exact Or.inr (List.mem_append_right _ dropped)
        · exact absurd reads (readers changes)
        · exact absurd writes writer
      · exact Or.inl ((second.leave_stands gone).mpr ⟨standing, lost⟩)
    · exact Or.inr (List.mem_append_left _ dropped)
  · exact List.pairwise_of_forall_mem_list fun _ _ second member _ _ =>
      Or.inl (fresh_stands _ second member)
  · exact fun _ _ second member _ _ => Or.inl (fresh_stands _ second member)

theorem past_next (consistent : hub.Consistent)
    (reacted : hub.react now event = some step) (slot : Slot)
    (member : slot ∈ next hub step gone slots)
    (stands : slot.stands = false) (operation : Operation)
    (after : step.hub.operation? slot.bid.1 = some operation) :
    slot.bid.2 = .tick .checking ∧ operation.Further := by
  rcases List.mem_append.mp member with before | fresh
  · obtain ⟨old, present, rfl⟩ := List.mem_map.mp before
    have found : step.hub.operation? old.bid.1 = some operation := after
    rw [Slot.leave_bid]
    cases stood : old.stands with
    | true =>
        -- It has just gone out of the line: it has found somebody.
        rcases traffic.left _ (old.gone_of_leave gone stood stands) with
          ceased | ⟨checks, scans⟩
        · rw [ceased] at found
          cases found
        · obtain ⟨first, standing, becomes⟩ := ledger.standing old present stood
          rw [checks] at standing
          cases standing
          rw [scans] at found
          cases found
          exact ⟨old.bid.2.becomes_plain _ becomes rfl, Or.inl rfl⟩
    | false =>
        cases hub.react_fate now event step old.bid.1 consistent reacted with
        | stays same began ended =>
            rw [same] at found
            exact ledger.past old present stood operation found
        | begins first named calm before after began ended =>
            exact absurd named (Nat.ne_of_lt (ledger.named old present))
        | moves first later heard motion before after began ended outcomes =>
            rw [after] at found
            cases found
            obtain ⟨checks, further⟩ := ledger.past old present stood first before
            exact ⟨checks, Operation.further_motion hub _ first operation heard
              motion further⟩
        | answers first registry reply answer before after listeners replied
            began ended =>
            rw [after] at found
            cases found
        | drops first before after silent began ended =>
            rw [after] at found
            cases found
  · rw [fresh_stands _ slot fresh] at stands
    cases stands

end

end AlarmRelay.Hub.Ledger
