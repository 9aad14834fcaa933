import AlarmRelay.Proofs.Hub.Entering

/-!
# Bids that have been served

What a bid came to when it was served stays true for the rest of the run: whoever
answers does so over the listeners that the changes before its bid come to, and
these changes are over by then.
-/

set_option autoImplicit false

namespace AlarmRelay.Hub

/-! ## Answers -/

/-- Whoever answers says what its bid comes to over the listeners. -/
theorem answer_gives (hub : Hub) (journal : List Mark) (id : OperationId)
    (operation : Operation) (registry : Registry) (reply : Reply)
    (bid : Operation) (told : hub.Told journal)
    (found : hub.operation? id = some operation)
    (answer : Answer hub id operation registry reply)
    (becomes : bid.Becomes operation) (asks : bid.lockSide?.isSome = true) :
    bid.Gives hub.registry.listeners reply (Mark.calls id journal) := by
  have silent : operation.fanOut? = none →
      bid = operation ∧ Mark.calls id journal = [] := by
    intro plain
    refine ⟨bid.becomes_plain operation becomes plain, ?_⟩
    refine (told.calm id operation found ?_).1
    intro delivery pending report walks
    rw [plain] at walks
    cases walks
  cases answer with
  | joins listener held =>
      obtain ⟨rfl, calls⟩ := silent rfl
      rw [calls]
      exact .add listener
  | parts listener held =>
      obtain ⟨rfl, calls⟩ := silent rfl
      rw [calls]
      exact .remove listener
  | reads _ _ held read =>
      obtain ⟨rfl, calls⟩ := silent (operation.readReply?_plain _ _ read).1
      rw [calls]
      unfold Operation.readReply? at read
      split at read
      · cases read
        exact .count
      · cases read
        exact .isEmpty
      · cases read
        exact .listeners
      · split at read
        · rename_i nobody
          cases read
          exact .skips (List.isEmpty_iff.mp nobody)
        · cases read
      · cases read
  | exits loop isOver =>
      obtain ⟨rfl, _⟩ := silent rfl
      cases asks
  | ends _ delivery report _ before reported =>
      obtain ⟨_, done, split, calls⟩ := told.walking id operation delivery []
        report found before
      have whole : Mark.calls id journal = hub.registry.listeners.map
          fun listener => (listener, delivery) := by
        rw [calls, split]
        simp
      obtain ⟨first, carries⟩ :=
        bid.becomes_fanOut operation delivery _ becomes before
      rw [whole]
      obtain ⟨cause, rfl⟩ | ⟨alarms, rfl, rfl⟩ :=
        bid.fanOut?_cases delivery first carries
      · exact .deliver delivery cause first reply
      · exact .fanOut alarms first reply
  | fails message =>
      obtain ⟨rfl, _⟩ := silent rfl
      cases asks

theorem answer_further (hub : Hub) (id : OperationId) (operation : Operation)
    (registry : Registry) (reply : Reply)
    (answer : Answer hub id operation registry reply)
    (further : operation.Further) : reply ≠ .tick .skipped := by
  intro skips
  subst skips
  cases answer with
  | reads _ _ held read =>
      rcases further with rfl | ⟨delivery, fanOut, carries⟩
      · cases read
      · rw [(operation.readReply?_plain _ _ read).1] at carries
        cases carries
  | ends _ delivery report _ before reported => cases reported

theorem scans_somebody (hub : Hub) (now : Instant) (event : HubEvent)
    (step : Progress) (id : OperationId) (consistent : hub.Consistent)
    (reacted : hub.react now event = some step)
    (checks : hub.operation? id = some (.tick .checking))
    (scans : step.hub.operation? id = some (.tick .scanning)) :
    hub.registry.listeners ≠ [] := by
  cases hub.react_fate now event step id consistent reacted with
  | moves first later heard motion before after began ended outcomes =>
      rw [checks] at before
      cases before
      rw [scans] at after
      cases after
      cases motion with
      | scans somebody => exact somebody
      | walks _ _ delivery held waits walks => cases waits
      | hears _ _ delivery listener rest report outcome walks walked => cases walks
  | stays same began ended =>
      rw [scans, checks] at same
      cases same
  | begins first named calm before after began ended =>
      rw [checks] at before
      cases before
  | answers first registry reply answer before after listeners replied began
      ended =>
      rw [scans] at after
      cases after
  | drops first before after silent began ended =>
      rw [scans] at after
      cases after

theorem calls_returned (hub : Hub) (now : Instant) (event : HubEvent)
    (step : Progress) (journal : List Mark) (id : OperationId) (reply : Reply)
    (consistent : hub.Consistent) (told : hub.Told journal)
    (reacted : hub.react now event = some step)
    (returned : .returned id reply ∈ journal ++ hub.marks event step) :
    Mark.calls id (journal ++ hub.marks event step) = Mark.calls id journal := by
  obtain ⟨ceased, _⟩ := hub.told_over now event step journal told consistent
    reacted id (Or.inr ⟨reply, returned⟩)
  obtain ⟨began, _⟩ := hub.marks_of_gone now event step id consistent reacted
    ceased
  rw [Mark.calls_append, began, List.append_nil]

namespace Ledger

section

variable {hub : Hub} {journal : List Mark} {slots : List Slot}
  {now : Instant} {event : HubEvent} {step : Progress}
  {gone : List OperationId} (ledger : hub.Ledger journal slots)
  (traffic : Traffic hub event step gone) (consistent : hub.Consistent)
  (told : hub.Told journal) (reacted : hub.react now event = some step)

include ledger traffic consistent

/-- A bid that has been served comes after changes that are made or dropped. -/
theorem settled_next (first last : List Slot) (slot : Slot)
    (split : slots = first ++ slot :: last)
    (left : (slot.leave gone).stands = false)
    (kept : .dropped slot.bid.1 ∉ journal ++ hub.marks event step) :
    ∀ other ∈ first, other.bid.2.change?.isSome = true →
      other.stands = false := by
  cases stood : slot.stands with
  | false =>
      intro other member changes
      have order := ledger.behind
      rw [split, List.pairwise_append] at order
      rw [← Bool.not_eq_true]
      intro standing
      rcases order.2.2 other member slot List.mem_cons_self changes standing with
        stands | dropped
      · rw [stood] at stands
        cases stands
      · exact kept (List.mem_append_left _ dropped)
  | true =>
      have member : slot ∈ slots := by simp [split]
      obtain ⟨operation, found, _, asks⟩ := ledger.standing_asks slot member stood
      rcases traffic.granted _ (slot.gone_of_leave gone stood left) operation found
        asks with dropped | holds
      · exact absurd (List.mem_append_right _ dropped) kept
      · exact ledger.settled_before consistent first last slot split stood holds

theorem replay_next (first last : List Slot) (slot : Slot)
    (split : slots = first ++ slot :: last)
    (left : (slot.leave gone).stands = false)
    (kept : .dropped slot.bid.1 ∉ journal ++ hub.marks event step) :
    replay (journal ++ hub.marks event step) (first.map Slot.bid) =
      replay journal (first.map Slot.bid) := by
  have settled := ledger.settled_next traffic consistent first last slot split
    left kept
  rw [replay, replay, changes, changes, List.filterMap_map, List.filterMap_map]
  congr 1
  apply List.filterMap_congr
  intro other member
  simp only [Function.comp_apply]
  cases means : other.bid.2.change? with
  | none => simp
  | some call =>
      have changing : other.bid.2.change?.isSome = true := by rw [means]; rfl
      have same : .dropped other.bid.1 ∈ journal ++ hub.marks event step ↔
          .dropped other.bid.1 ∈ journal :=
        ledger.dropped_past other (by rw [split]; exact List.mem_append_left _ member)
          (settled other member changing) changing
      simp only [same]

include told reacted

omit traffic in
theorem served_past (first last : List Slot) (old : Slot)
    (split : slots = first ++ old :: last) (stood : old.stands = false)
    (kept : .dropped old.bid.1 ∉ journal) :
    old.bid.Served step.hub (journal ++ hub.marks event step)
      (replay journal (first.map Slot.bid)) := by
  have member : old ∈ slots := by simp [split]
  have served := ledger.served first old last split stood kept
  constructor
  · intro reply returned
    rw [hub.calls_returned now event step journal old.bid.1 reply consistent told
      reacted returned]
    rcases List.mem_append.mp returned with past | present
    · exact served.gives reply past
    · obtain ⟨operation, registry, found, answer, _⟩ :=
        hub.returned_answer now event step old.bid.1 reply consistent reacted
          present
      obtain ⟨checks, further⟩ := ledger.past old member stood operation found
      rw [checks]
      exact .scans reply _ (served.finds ((hub.mem_inFlight _).mpr ⟨_, found⟩))
        (hub.answer_further _ operation registry reply answer further)
  · intro current
    exact served.finds (hub.flow_inFlight step.hub
      (hub.react_flow now event step reacted) _ (ledger.named old member) current)

/-- A bid that goes out of the line is served over the listeners. -/
theorem served_leaving (old : Slot) (member : old ∈ slots)
    (stood : old.stands = true) (left : (old.leave gone).stands = false) :
    old.bid.Served step.hub (journal ++ hub.marks event step)
      hub.registry.listeners := by
  obtain ⟨operation, found, becomes⟩ := ledger.standing old member stood
  constructor
  · intro reply returned
    rw [hub.calls_returned now event step journal old.bid.1 reply consistent told
      reacted returned]
    rcases List.mem_append.mp returned with past | present
    · rw [(told.isOver _ (Or.inr ⟨reply, past⟩)).1] at found
      cases found
    · obtain ⟨answering, registry, here, answer, _⟩ :=
        hub.returned_answer now event step old.bid.1 reply consistent reacted
          present
      rw [found] at here
      cases here
      exact hub.answer_gives journal _ operation registry reply old.bid.2 told
        found answer becomes (ledger.asks old member)
  · intro current
    rcases traffic.left _ (old.gone_of_leave gone stood left) with
      ceased | ⟨checks, scans⟩
    · exact absurd current ((step.hub.absent_iff _).mp ceased)
    · exact hub.scans_somebody now event step old.bid.1 consistent reacted checks
        scans

theorem served_next (before : List Slot) (slot : Slot) (after : List Slot)
    (split : next hub step gone slots = before ++ slot :: after)
    (stands : slot.stands = false)
    (kept : .dropped slot.bid.1 ∉ journal ++ hub.marks event step) :
    slot.bid.Served step.hub (journal ++ hub.marks event step)
      (replay (journal ++ hub.marks event step) (before.map Slot.bid)) := by
  obtain ⟨first, old, last, parts, rfl, rfl⟩ :=
    next_split hub step gone slots before after slot split stands
  have bids : (first.map (Slot.leave gone)).map Slot.bid =
      first.map Slot.bid := by
    rw [List.map_map]
    rfl
  rw [Slot.leave_bid] at kept ⊢
  rw [bids, ledger.replay_next traffic consistent first last old parts stands kept]
  cases stood : old.stands with
  | false =>
      exact ledger.served_past consistent told reacted first last old parts stood
        (fun dropped => kept (List.mem_append_left _ dropped))
  | true =>
      rw [← ledger.members_at first last old parts stood
        (ledger.settled_next traffic consistent first last old parts stands kept)]
      exact ledger.served_leaving traffic consistent told reacted old
        (by simp [parts]) stood stands

/-- Every event keeps the ledger. -/
theorem react : step.hub.Ledger (journal ++ hub.marks event step)
    (next hub step gone slots) :=
  have change := hub.react_change now event step consistent reacted
  { line := ledger.line_next traffic
    named := ledger.named_next reacted
    asks := ledger.asks_next
    standing := ledger.standing_next traffic
    past := ledger.past_next traffic consistent reacted
    apart := ledger.apart_next
    ahead := ledger.ahead_next traffic change consistent
    behind := ledger.behind_next traffic consistent
    members := ledger.members_next traffic change told
    served := ledger.served_next traffic consistent told reacted }

end

end Ledger
end AlarmRelay.Hub
