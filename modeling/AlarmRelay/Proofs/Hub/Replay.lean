import AlarmRelay.Proofs.Hub.Served
import AlarmRelay.Proofs.Hub.Isolation

/-!
# Runs as replays of their bids

Whatever the tasks that use a hub do and however long its fan-outs take, every
request that completes comes to what it would come to if the changes of membership
had been made one at a time in the order of the bids, without the dropped ones.
-/

set_option autoImplicit false

namespace AlarmRelay

/-! ## Scripts and one listener -/

namespace Script

variable (before : List Listener) (script : Script) (listener : Listener)

/-- A listener that no call adds stays out. -/
theorem members_absent
    (absent : ∀ other ∈ before, other.isSame listener = false)
    (nobody : ∀ handle, .subscribe handle ∈ script →
      handle.isSame listener = false) :
    ∀ other ∈ members before script, other.isSame listener = false := by
  induction script generalizing before with
  | nil => exact absent
  | cons call rest ih =>
      refine ih (call.members before) ?_
        (fun handle later => nobody handle (List.mem_cons_of_mem _ later))
      cases call with
      | subscribe handle =>
          simp only [ScriptCall.members]
          split
          · exact absent
          · intro other member
            rcases List.mem_append.mp member with old | new
            · exact absent other old
            · rw [List.mem_singleton.mp new]
              exact nobody handle List.mem_cons_self
      | unsubscribe handle =>
          intro other member
          exact absent other (List.mem_of_mem_eraseP member)
      | publish event => exact absent
      | snapshot scan => exact absent

/-- A listener that no call removes stays in. -/
theorem members_present
    (present : ∃ other ∈ before, other.isSame listener = true)
    (nobody : ∀ handle, .unsubscribe handle ∈ script →
      handle.isSame listener = false) :
    ∃ other ∈ members before script, other.isSame listener = true := by
  induction script generalizing before with
  | nil => exact present
  | cons call rest ih =>
      refine ih (call.members before) ?_
        (fun handle later => nobody handle (List.mem_cons_of_mem _ later))
      obtain ⟨other, member, same⟩ := present
      cases call with
      | subscribe handle =>
          refine ⟨other, ?_, same⟩
          simp only [ScriptCall.members]
          split
          · exact member
          · exact List.mem_append_left _ member
      | unsubscribe handle =>
          refine ⟨other, ?_, same⟩
          have apart := nobody handle List.mem_cons_self
          refine (List.mem_eraseP_of_neg ?_).mpr member
          rw [Listener.isSame_iff] at same ⊢
          rw [← Bool.not_eq_true, Listener.isSame_iff] at apart
          exact fun removed => apart (removed.symm.trans same)
      | publish event => exact ⟨other, member, same⟩
      | snapshot scan => exact ⟨other, member, same⟩

end Script

theorem ScriptCall.members_subscribe (before : List Listener)
    (handle listener : Listener) (same : handle.isSame listener = true) :
    ∃ other ∈ (ScriptCall.subscribe handle).members before,
      other.isSame listener = true := by
  simp only [ScriptCall.members]
  split
  · rename_i known
    obtain ⟨other, member, shared⟩ := List.any_eq_true.mp known
    refine ⟨other, member, ?_⟩
    rw [Listener.isSame_iff] at same shared ⊢
    exact shared.trans same
  · exact ⟨handle, List.mem_append_right _ (List.mem_singleton.mpr rfl), same⟩

/-! ## Bids for one listener -/

/-- The bid is for an add of the listener. -/
def Bid.Adds (listener : Listener) (bid : Bid) : Prop :=
  ∃ handle, bid.2 = .add handle ∧ handle.isSame listener = true

/-- The bid is for a removal of the listener. -/
def Bid.Removes (listener : Listener) (bid : Bid) : Prop :=
  ∃ handle, bid.2 = .remove handle ∧ handle.isSame listener = true

theorem replay_append (journal : List Mark) (first second : List Bid) :
    replay journal (first ++ second) =
      Script.members (replay journal first) (changes journal second) := by
  rw [replay, changes, List.filterMap_append, Script.members_append]
  rfl

theorem mem_changes (journal : List Mark) (bids : List Bid) (call : ScriptCall) :
    call ∈ changes journal bids ↔
      ∃ bid ∈ bids, .dropped bid.1 ∉ journal ∧ bid.2.change? = some call := by
  simp [changes, List.mem_filterMap]

theorem change?_subscribe (operation : Operation) (listener : Listener) :
    operation.change? = some (.subscribe listener) ↔
      operation = .add listener := by
  cases operation <;> simp [Operation.change?]

theorem change?_unsubscribe (operation : Operation) (listener : Listener) :
    operation.change? = some (.unsubscribe listener) ↔
      operation = .remove listener := by
  cases operation <;> simp [Operation.change?]

section

variable (journal : List Mark) (first second : List Bid) (listener : Listener)

/-- A listener stays out as long as every add of it is dropped. -/
theorem replay_absent
    (absent : ∀ other ∈ replay journal first, other.isSame listener = false)
    (dropped : ∀ bid ∈ second, bid.Adds listener → .dropped bid.1 ∈ journal) :
    ∀ other ∈ replay journal (first ++ second),
      other.isSame listener = false := by
  rw [replay_append]
  apply Script.members_absent _ _ _ absent
  intro handle member
  obtain ⟨bid, present, kept, changes⟩ := (mem_changes _ _ _).mp member
  rw [← Bool.not_eq_true]
  intro same
  exact kept (dropped bid present
    ⟨handle, (change?_subscribe _ _).mp changes, same⟩)

/-- A listener stays in as long as every removal of it is dropped. -/
theorem replay_present (add : Bid) (adds : add.Adds listener)
    (kept : .dropped add.1 ∉ journal)
    (dropped : ∀ bid ∈ second, bid.Removes listener → .dropped bid.1 ∈ journal) :
    ∃ other ∈ replay journal (first ++ add :: second),
      other.isSame listener = true := by
  obtain ⟨handle, adding, same⟩ := adds
  have made : changes journal (add :: second) =
      .subscribe handle :: changes journal second := by
    apply List.filterMap_cons_some
    rw [if_neg kept, adding]
    rfl
  rw [replay_append, made, Script.members]
  apply Script.members_present
  · exact ScriptCall.members_subscribe _ handle listener same
  · intro other member
    obtain ⟨bid, present, stays, changes⟩ := (mem_changes _ _ _).mp member
    rw [← Bool.not_eq_true]
    intro removed
    exact stays (dropped bid present
      ⟨other, (change?_unsubscribe _ _).mp changes, removed⟩)

end

/-- A list with an element of some kind has a first one. -/
theorem first_split {α : Type} (kind : α → Prop) (list : List α) (entry : α)
    (member : entry ∈ list) (holds : kind entry) :
    ∃ before first after, list = before ++ first :: after ∧ kind first ∧
      ∀ other ∈ before, ¬ kind other := by
  induction list with
  | nil => cases member
  | cons head rest ih =>
      by_cases here : kind head
      · exact ⟨[], head, rest, rfl, here, by intro other past; cases past⟩
      · have later : entry ∈ rest := by
          rcases List.mem_cons.mp member with same | later
          · rw [same] at holds
            exact absurd holds here
          · exact later
        obtain ⟨before, first, after, rfl, found, none⟩ := ih later
        refine ⟨head :: before, first, after, rfl, found, ?_⟩
        intro other past
        rcases List.mem_cons.mp past with same | between
        · rw [same]
          exact here
        · exact none other between

/-- No operation both answers and is dropped. -/
def Mark.SettlesOnce (marks : List Mark) : Prop :=
  ∀ id reply, .returned id reply ∈ marks → .dropped id ∉ marks

namespace Hub

/-! ## Runs -/

theorem ledger_run (config : HubConfig) (timeline : Timeline) (hub : Hub)
    (reached : (create config).run timeline = some hub) :
    ∃ slots : List Slot, slots.map Slot.bid = (create config).bids timeline ∧
      hub.Ledger ((create config).journal timeline) slots := by
  have kept : (hub.Consistent ∧ hub.Told ([] ++ (create config).journal timeline)) ∧
      ∃ slots : List Slot,
        slots.map Slot.bid = [] ++ (create config).bids timeline ∧
          hub.Ledger ([] ++ (create config).journal timeline) slots :=
    observe_both
      (motive := fun hub bids journal => (hub.Consistent ∧ hub.Told journal) ∧
        ∃ slots : List Slot, slots.map Slot.bid = bids ∧
          hub.Ledger journal slots)
      (by
        rintro before now event step bids journal
          ⟨⟨consistent, told⟩, slots, rfl, ledger⟩ reacted
        have turn := before.react_turn now event step reacted
        obtain ⟨gone, traffic⟩ := before.turn_traffic event step consistent turn
        refine ⟨⟨before.consistent_turn event step consistent turn,
          before.told_react now event step journal told consistent reacted⟩,
          Ledger.next before step gone slots, ?_,
          ledger.react traffic consistent told reacted⟩
        rw [Ledger.next, List.map_append, List.map_map, List.map_map]
        congr 1
        exact List.map_id _)
      ⟨⟨consistent_create config, told_create config⟩, [], rfl,
        Ledger.of_create config⟩ reached
  exact kept.2

/-- Whatever asks for the lock when it is requested makes a bid then. -/
theorem asked_run (config : HubConfig) (timeline : Timeline) (hub : Hub)
    (reached : (create config).run timeline = some hub) (id : OperationId)
    (operation : Operation)
    (requested : .requested id operation ∈ (create config).journal timeline)
    (asks : operation.lockSide?.isSome = true) :
    (id, operation) ∈ (create config).bids timeline := by
  have kept : hub.Consistent ∧ ∀ id operation,
      .requested id operation ∈ [] ++ (create config).journal timeline →
        operation.lockSide?.isSome = true →
          (id, operation) ∈ [] ++ (create config).bids timeline :=
    observe_both
      (motive := fun (hub : Hub) (bids : List Bid) (journal : List Mark) =>
        hub.Consistent ∧ ∀ id operation, .requested id operation ∈ journal →
          operation.lockSide?.isSome = true → (id, operation) ∈ bids)
      (by
        rintro before now event step bids journal ⟨consistent, made⟩ reacted
        have next := before.consistent_turn event step consistent
          (before.react_turn now event step reacted)
        refine ⟨next, ?_⟩
        intro id operation requested asks
        rcases List.mem_append.mp requested with old | new
        · exact List.mem_append_left _ (made id operation old asks)
        · have present := before.requested_present now event step id operation
            consistent reacted new
          obtain ⟨_, fresh⟩ := before.mem_requested event step id operation new
          refine List.mem_append_right _ ((before.mem_newBids step.hub _).mpr
            ⟨?_, present, asks, ?_⟩)
          · exact next.named id ((step.hub.mem_inFlight id).mpr ⟨_, present⟩)
          · rw [before.absent_of_unborn id consistent fresh]
            rfl)
      ⟨consistent_create config, by intro id operation member; cases member⟩
      reached
  exact kept.2 id operation requested asks

theorem settles_once_run (config : HubConfig) (timeline : Timeline) (hub : Hub)
    (reached : (create config).run timeline = some hub) :
    Mark.SettlesOnce ((create config).journal timeline) := by
  have kept : (hub.Consistent ∧ hub.Told ([] ++ (create config).journal timeline)) ∧
      Mark.SettlesOnce ([] ++ (create config).journal timeline) :=
    observe_induction
      (motive := fun (hub : Hub) (journal : List Mark) =>
        (hub.Consistent ∧ hub.Told journal) ∧ Mark.SettlesOnce journal)
      (by
        rintro before now event step journal ⟨⟨consistent, told⟩, once⟩ reacted
        refine ⟨⟨before.consistent_turn event step consistent
          (before.react_turn now event step reacted),
          before.told_react now event step journal told consistent reacted⟩, ?_⟩
        intro id reply returned dropped
        -- Whatever is over before the event is not in flight any more.
        have ceased : (.dropped id ∈ journal ∨ ∃ reply, .returned id reply ∈ journal) →
            id ∉ before.inFlight := by
          intro past
          exact (before.absent_iff id).mp (told.isOver id past).1
        rcases List.mem_append.mp returned with old | new
        · rcases List.mem_append.mp dropped with past | present
          · exact once id reply old past
          · exact ceased (Or.inr ⟨reply, old⟩)
              ((before.mem_dropped event step id).mp present).1
        · obtain ⟨current, _, replied⟩ :=
            before.mem_returned event step id reply new
          rcases List.mem_append.mp dropped with past | present
          · exact ceased (Or.inl past) current
          · rw [((before.mem_dropped event step id).mp present).2.2] at replied
            cases replied)
      ⟨⟨consistent_create config, told_create config⟩,
        by intro id reply member; cases member⟩ reached
  exact kept.2

/-! ## Sequential replay -/

/-- How a run compares with the sequential replay of its bids. -/
structure Replays (hub : Hub) (bids : List Bid) (journal : List Mark) : Prop where
  /-- Every request for the lock is a bid. -/
  asked : ∀ id operation, .requested id operation ∈ journal →
    operation.lockSide?.isSome = true → (id, operation) ∈ bids
  /-- Every bid whose operation answers comes to what it comes to after the changes
  before it, made one at a time in the order of the bids and without the dropped
  ones. -/
  answers : ∀ before bid after reply, bids = before ++ bid :: after →
    .returned bid.1 reply ∈ journal →
      bid.2.Gives (replay journal before) reply (Mark.calls bid.1 journal)
  /-- So does every bid that holds the lock. -/
  admitted : ∀ before bid after, bids = before ++ bid :: after →
    (∀ later ∈ after, later.1 ≠ bid.1) →
      (hub.registry.lock.holdsShared bid.1 = true ∨
        hub.registry.lock.holdsExclusive bid.1 = true) →
        hub.registry.listeners = replay journal before
  /-- A hub to which nothing happens but those changes ends up with the same
  listeners. -/
  alone : ∀ before after, bids = before ++ after →
    ∀ config timeline final,
      (create config).Plays (changes journal before) timeline final →
        final.registry.listeners = replay journal before
  /-- Among concurrent adds of an absent listener that is not removed meanwhile,
  exactly one answers that it was added, if any of them answers. -/
  oneJoins : ∀ first second third listener, bids = first ++ (second ++ third) →
    (∀ other ∈ replay journal first, other.isSame listener = false) →
      (∀ bid ∈ second, bid.Removes listener → .dropped bid.1 ∈ journal) →
        (∃ bid ∈ second, bid.Adds listener ∧
          ∃ reply, .returned bid.1 reply ∈ journal) →
          ∃ winner ∈ second, winner.Adds listener ∧
            .returned winner.1 (.flag true) ∈ journal ∧
            ∀ bid ∈ second, bid.Adds listener →
              .returned bid.1 (.flag true) ∈ journal → bid.1 = winner.1
  /-- A fan-out that answers has reached a listener whose add was asked for before
  it and was not dropped, even if the add was still waiting, unless the listener
  was removed in between. -/
  reaches : ∀ first add second bid third listener reply,
    bids = first ++ add :: (second ++ bid :: third) → add.Adds listener →
      .dropped add.1 ∉ journal →
        (∀ other ∈ second, other.Removes listener → .dropped other.1 ∈ journal) →
          bid.2.fanOut?.isSome = true → .returned bid.1 reply ∈ journal →
            ∃ call ∈ Mark.calls bid.1 journal, call.1.isSame listener = true
  /-- While no add and no removal holds the lock or waits for it, the shared side is
  granted at once. -/
  atOnce : ∀ now event step, hub.react now event = some step →
    (∀ id operation, hub.operation? id = some operation →
      operation.change? = none) →
      ∀ bid ∈ hub.newBids step.hub, bid.2.lockSide? = some .shared →
        step.hub.registry.lock.holdsShared bid.1 = true

section

variable {hub : Hub} {journal : List Mark} {slots : List Slot}
  (ledger : hub.Ledger journal slots) (told : hub.Told journal)
  (once : Mark.SettlesOnce journal)

include ledger told

theorem stands_of_returned (slot : Slot) (member : slot ∈ slots) (reply : Reply)
    (returned : .returned slot.bid.1 reply ∈ journal) : slot.stands = false := by
  rw [← Bool.not_eq_true]
  intro stands
  obtain ⟨operation, found, _⟩ := ledger.standing slot member stands
  rw [(told.isOver _ (Or.inr ⟨reply, returned⟩)).1] at found
  cases found

include once

theorem replays_answers (before : List Bid) (bid : Bid) (after : List Bid)
    (reply : Reply) (split : slots.map Slot.bid = before ++ bid :: after)
    (returned : .returned bid.1 reply ∈ journal) :
    bid.2.Gives (replay journal before) reply (Mark.calls bid.1 journal) := by
  obtain ⟨first, others, rfl, rfl, left⟩ := List.map_eq_append_iff.mp split
  obtain ⟨slot, last, rfl, rfl, _⟩ := List.map_eq_cons_iff.mp left
  have served := ledger.served first slot last rfl
    (stands_of_returned ledger told slot (by simp) reply returned)
    (once _ reply returned)
  exact served.gives reply returned

/-- Whoever bids for a change before a bid that has answered is over. -/
theorem replays_over (before : List Bid) (bid : Bid) (after : List Bid)
    (reply : Reply) (split : slots.map Slot.bid = before ++ bid :: after)
    (returned : .returned bid.1 reply ∈ journal) (other : Bid)
    (member : other ∈ before) (changes : other.2.change?.isSome = true) :
    hub.operation? other.1 = none ∧ other.1 < hub.nextOperation := by
  obtain ⟨first, others, rfl, rfl, left⟩ := List.map_eq_append_iff.mp split
  obtain ⟨slot, last, rfl, rfl, _⟩ := List.map_eq_cons_iff.mp left
  obtain ⟨earlier, present, rfl⟩ := List.mem_map.mp member
  have here : earlier ∈ first ++ slot :: last := List.mem_append_left _ present
  refine ⟨ledger.past_change earlier here ?_ changes, ledger.named earlier here⟩
  rw [← Bool.not_eq_true]
  intro standing
  have order := ledger.behind
  rw [List.pairwise_append] at order
  rcases order.2.2 earlier present slot List.mem_cons_self changes standing with
    stands | dropped
  · rw [stands_of_returned ledger told slot (by simp) reply returned] at stands
    cases stands
  · exact once _ reply returned dropped

end

/-- Whoever holds the lock does so over what the changes before its last bid come
to. -/
theorem Ledger.replays_admitted {hub : Hub} {journal : List Mark}
    {slots : List Slot} (ledger : hub.Ledger journal slots)
    (consistent : hub.Consistent) (before : List Bid) (bid : Bid)
    (after : List Bid) (split : slots.map Slot.bid = before ++ bid :: after)
    (last : ∀ later ∈ after, later.1 ≠ bid.1)
    (held : bid.1 ∈ hub.registry.lock.readers ∨
      hub.registry.lock.writer = some bid.1) :
    hub.registry.listeners = replay journal before := by
  obtain ⟨first, others, rfl, rfl, left⟩ := List.map_eq_append_iff.mp split
  obtain ⟨slot, rest, rfl, rfl, rfl⟩ := List.map_eq_cons_iff.mp left
  -- Nobody else has the place of the last bid of an operation.
  have stands : slot.stands = true := by
    obtain ⟨mode, queued⟩ : ∃ mode,
        (⟨slot.bid.1, mode⟩ : LockRequest) ∈ hub.registry.lock.line := by
      rcases held with reads | writes
      · exact ⟨_, FairLock.mem_line_readers _ _ reads⟩
      · exact ⟨_, FairLock.mem_line_writer _ _ writes⟩
    obtain ⟨holder, present, standing, named, _⟩ := ledger.slot_of_line _ queued
    rcases List.mem_append.mp present with past | here
    · have single := ledger.apart
      rw [List.pairwise_append] at single
      rw [single.2.2 holder past slot List.mem_cons_self named] at standing
      cases standing
    · rcases List.mem_cons.mp here with rfl | later
      · exact standing
      · exact absurd named (last holder.bid (List.mem_map_of_mem later))
  exact ledger.members_at first rest slot rfl stands
    (ledger.settled_before consistent first rest slot rfl stands held)

/-- Two handles of one listener are told apart from others alike. -/
theorem any_isSame (members : List Listener) (handle listener : Listener)
    (same : handle.isSame listener = true) :
    members.any (fun other => other.isSame handle) =
      members.any (fun other => other.isSame listener) := by
  rw [Listener.isSame_iff] at same
  simp only [Listener.isSame, same]

theorem gives_add (members : List Listener) (bid : Bid) (listener : Listener)
    (reply : Reply) (calls : List (Listener × Delivery))
    (adds : bid.Adds listener) (gives : bid.2.Gives members reply calls) :
    reply = .flag (!members.any (fun other => other.isSame listener)) := by
  obtain ⟨handle, adding, same⟩ := adds
  rw [← any_isSame members handle listener same]
  rw [adding] at gives
  cases gives
  rfl

theorem gives_absent (members : List Listener) (bid : Bid) (listener : Listener)
    (reply : Reply) (calls : List (Listener × Delivery))
    (adds : bid.Adds listener) (gives : bid.2.Gives members reply calls)
    (absent : ∀ other ∈ members, other.isSame listener = false) :
    reply = .flag true := by
  have nobody : members.any (fun other => other.isSame listener) = false := by
    rw [List.any_eq_false]
    intro other member
    rw [absent other member]
    exact Bool.false_ne_true
  rw [gives_add members bid listener reply calls adds gives, nobody]
  rfl

theorem gives_present (members : List Listener) (bid : Bid) (listener : Listener)
    (reply : Reply) (calls : List (Listener × Delivery))
    (adds : bid.Adds listener) (gives : bid.2.Gives members reply calls)
    (present : ∃ other ∈ members, other.isSame listener = true) :
    reply = .flag false := by
  rw [gives_add members bid listener reply calls adds gives,
    List.any_eq_true.mpr present]
  rfl

theorem gives_calls (members : List Listener) (bid : Operation) (reply : Reply)
    (calls : List (Listener × Delivery)) (gives : bid.Gives members reply calls)
    (carries : bid.fanOut?.isSome = true) :
    calls.map Prod.fst = members := by
  cases gives with
  | deliver delivery cause fanOut reply => simp [Function.comp_def]
  | fanOut alarms fanOut reply => simp [Function.comp_def]
  | _ => cases carries

theorem replays_oneJoins (hub : Hub) (bids : List Bid) (journal : List Mark)
    (once : Mark.SettlesOnce journal)
    (settled : hub.Settled journal)
    (answers : ∀ before bid after reply, bids = before ++ bid :: after →
      .returned bid.1 reply ∈ journal →
        bid.2.Gives (replay journal before) reply (Mark.calls bid.1 journal))
    (ceased : ∀ before bid after reply, bids = before ++ bid :: after →
      .returned bid.1 reply ∈ journal → ∀ other ∈ before,
        other.2.change?.isSome = true →
          hub.operation? other.1 = none ∧ other.1 < hub.nextOperation)
    (first second third : List Bid) (listener : Listener)
    (split : bids = first ++ (second ++ third))
    (absent : ∀ other ∈ replay journal first, other.isSame listener = false)
    (stays : ∀ bid ∈ second, bid.Removes listener → .dropped bid.1 ∈ journal)
    (one : Bid) (among : one ∈ second) (adds : one.Adds listener)
    (reply : Reply) (returned : .returned one.1 reply ∈ journal) :
    ∃ winner ∈ second, winner.Adds listener ∧
      .returned winner.1 (.flag true) ∈ journal ∧
      ∀ bid ∈ second, bid.Adds listener →
        .returned bid.1 (.flag true) ∈ journal → bid.1 = winner.1 := by
  -- The first add that is not dropped is the one that joins the listener.
  obtain ⟨before, winner, after, rfl, ⟨joins, kept⟩, earlier⟩ :=
    first_split (fun bid => Bid.Adds listener bid ∧ .dropped bid.1 ∉ journal)
      second one among ⟨adds, once _ reply returned⟩
  have dropped : ∀ bid ∈ before, bid.Adds listener →
      .dropped bid.1 ∈ journal := by
    intro bid member adding
    apply Decidable.byContradiction
    intro undropped
    exact earlier bid member ⟨adding, undropped⟩
  have here : bids = (first ++ before) ++ winner :: (after ++ third) := by
    simp [split]
  have answered : ∃ answer, .returned winner.1 answer ∈ journal := by
    rcases List.mem_append.mp among with past | rest
    · exact absurd (dropped one past adds) (once _ reply returned)
    · rcases List.mem_cons.mp rest with rfl | later
      · exact ⟨reply, returned⟩
      · obtain ⟨left, right, rfl⟩ := List.append_of_mem later
        obtain ⟨handle, adding, _⟩ := joins
        obtain ⟨gone, named⟩ := ceased (first ++ before ++ winner :: left) one
          (right ++ third) reply (by simp [split]) returned winner (by simp)
          (by rw [adding]; rfl)
        exact (settled.settled winner.1 named gone).resolve_left kept
  obtain ⟨answer, replied⟩ := answered
  have out := replay_absent journal first before listener absent dropped
  have joined := gives_absent _ winner listener answer _ joins
    (answers _ winner _ answer here replied) out
  subst joined
  refine ⟨winner, by simp, joins, replied, ?_⟩
  intro bid member also joined
  rcases List.mem_append.mp member with past | rest
  · exact absurd (dropped bid past also) (once _ _ joined)
  · rcases List.mem_cons.mp rest with rfl | later
    · rfl
    · -- Whoever comes later finds the listener.
      obtain ⟨left, right, rfl⟩ := List.append_of_mem later
      have present := replay_present journal (first ++ before) left listener winner
        joins kept (fun removal between => stays removal (by simp [between]))
      have refused := gives_present _ bid listener _ _ also
        (answers (first ++ before ++ winner :: left) bid (right ++ third) _
          (by simp [split]) joined) present
      cases refused

theorem replays_atOnce (hub : Hub) (journal : List Mark) (slots : List Slot)
    (ledger : hub.Ledger journal slots) (consistent : hub.Consistent)
    (now : Instant) (event : HubEvent) (step : Progress)
    (reacted : hub.react now event = some step)
    (nobody : ∀ id operation, hub.operation? id = some operation →
      operation.change? = none)
    (bid : Bid) (member : bid ∈ hub.newBids step.hub)
    (shared : bid.2.lockSide? = some .shared) :
    step.hub.registry.lock.holdsShared bid.1 = true := by
  obtain ⟨gone, traffic⟩ := hub.turn_traffic event step consistent
    (hub.react_turn now event step reacted)
  rw [traffic.enters bid member .shared shared, FairLock.holdsShared,
    List.contains_iff_mem]
  apply FairLock.request_shared
  intro entry queued
  obtain ⟨slot, present, stands, _, asks⟩ := ledger.slot_of_line entry queued
  cases mode : entry.mode with
  | shared => rfl
  | exclusive =>
      rw [mode] at asks
      have changes := slot.bid.2.change?_exclusive asks
      have found := ledger.standing_change slot present stands changes
      rw [nobody _ _ found] at changes
      cases changes

/-- Whatever the tasks that use a hub do, its registry behaves as if the changes of
membership had been made one at a time in the order of the requests. -/
theorem registry_replays_in_order (config : HubConfig) (timeline : Timeline)
    (hub : Hub) (reached : (create config).run timeline = some hub) :
    hub.Replays ((create config).bids timeline)
      ((create config).journal timeline) := by
  obtain ⟨slots, bids, ledger⟩ := ledger_run config timeline hub reached
  obtain ⟨consistent, told⟩ := (create config).told_run hub timeline []
    (consistent_create config) (told_create config) reached
  rw [List.nil_append] at told
  have once := settles_once_run config timeline hub reached
  have settled := settled_run config timeline hub reached
  rw [← bids]
  have answers := replays_answers ledger told once
  refine {
    asked := ?_
    answers := answers
    admitted := ?_
    alone := ?_
    oneJoins := ?_
    reaches := ?_
    atOnce := fun now event step reacted nobody bid member shared =>
      hub.replays_atOnce _ slots ledger consistent now event step reacted nobody
        bid member shared }
  · rw [bids]
    exact asked_run config timeline hub reached
  · intro before bid after split last holds
    apply ledger.replays_admitted consistent before bid after split last
    simpa [FairLock.holdsShared, FairLock.holdsExclusive] using holds
  · intro before after _ config timeline final plays
    have resting := (create config).resting_of_consistent
      (consistent_create config) rfl rfl
    exact ((create config).plays_played final _ timeline resting plays).members
  · rintro first second third listener split absent stays
      ⟨one, among, adds, reply, returned⟩
    exact hub.replays_oneJoins _ _ once settled answers
      (replays_over ledger told once) first second third listener split absent
      stays one among adds reply returned
  · intro first add second bid third listener reply split adds kept stays carries
      returned
    have gives := answers (first ++ add :: second) bid third reply
      (by rw [split]; simp) returned
    obtain ⟨other, member, same⟩ := replay_present _ first second listener add
      adds kept stays
    rw [← gives_calls _ _ _ _ gives carries] at member
    obtain ⟨call, called, rfl⟩ := List.mem_map.mp member
    exact ⟨call, called, same⟩

/-- A listener that is added twice while the shared side is borrowed, with a
delivery asked for in between. -/
def contendedTimeline : Timeline :=
  [(⟨0⟩, .ask .borrow), (⟨0⟩, .ask (.subscribe ⟨1, "pager"⟩)),
    (⟨0⟩, .ask (.publish (.deleted 7 "disk"))),
    (⟨0⟩, .ask (.unsubscribe ⟨1, "pager"⟩)),
    (⟨0⟩, .ask (.subscribe ⟨1, "pager"⟩)), (⟨1⟩, .abandon 3),
    (⟨2⟩, .abandon 0), (⟨2⟩, .advance 1), (⟨2⟩, .advance 2),
    (⟨3⟩, .answerCall 2 .accepted), (⟨3⟩, .advance 2), (⟨3⟩, .advance 4)]

theorem registry_replays_in_order_contended :
    ∃ hub, (create .standard).run contendedTimeline = some hub ∧
      .returned 1 (.flag true) ∈
        (create .standard).journal contendedTimeline ∧
      .returned 2 (.report ⟨1, 0⟩) ∈
        (create .standard).journal contendedTimeline ∧
      .returned 4 (.flag false) ∈
        (create .standard).journal contendedTimeline ∧
      hub.Replays ((create .standard).bids contendedTimeline)
        ((create .standard).journal contendedTimeline) :=
  ⟨_, rfl, by decide, by decide, by decide,
    registry_replays_in_order .standard contendedTimeline _ rfl⟩

end Hub
end AlarmRelay
