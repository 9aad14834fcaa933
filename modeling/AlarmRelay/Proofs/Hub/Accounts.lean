import AlarmRelay.Proofs.Hub.Consistent
import AlarmRelay.Proofs.Hub.Deeds
import Mathlib

/-!
# Accounts of a hub

An account sets what is booked on one side against what is booked on the other, and
says what every operation in flight still owes.  If it is sound for an operation that
begins, moves on or ends, then it balances over every event of a hub.
-/

set_option autoImplicit false

namespace AlarmRelay

/-- A page of the books: what was booked, and which operations began and answered. -/
structure Page where
  booked : List Signal
  begun : List Operation
  answered : List (Operation × Reply)

def Page.add (first second : Page) : Page :=
  ⟨first.booked ++ second.booked, first.begun ++ second.begun,
    first.answered ++ second.answered⟩

structure Account where
  debit : Page → Nat
  credit : Page → Nat
  /-- The debit of an operation in flight that has not been credited yet. -/
  owed : Operation → Nat

/-- An operation owes what it was debited and not yet credited, from its beginning to
its end; one that notifies nobody owes nothing. -/
structure Account.Sound (account : Account) : Prop where
  debit_add : ∀ first second, account.debit (Page.add first second) =
    account.debit first + account.debit second
  credit_add : ∀ first second, account.credit (Page.add first second) =
    account.credit first + account.credit second
  quiet : ∀ operation, operation.notifies = false → account.owed operation = 0
  opens : ∀ operation booked, operation.Opens booked →
    account.debit ⟨booked, [operation], []⟩ =
      account.credit ⟨booked, [operation], []⟩ + account.owed operation
  moves : ∀ before after booked, before.Moves after booked →
    account.debit ⟨booked, [], []⟩ + account.owed before =
      account.credit ⟨booked, [], []⟩ + account.owed after
  ends : ∀ operation reply booked, operation.Ends reply booked →
    account.debit ⟨booked, [], [(operation, reply)]⟩ + account.owed operation =
      account.credit ⟨booked, [], [(operation, reply)]⟩

namespace Account.Sound

variable {account : Account} (sound : account.Sound)

include sound

theorem debit_nil : account.debit ⟨[], [], []⟩ = 0 := by
  have twice := sound.debit_add ⟨[], [], []⟩ ⟨[], [], []⟩
  simp only [Page.add, List.append_nil] at twice
  omega

theorem credit_nil : account.credit ⟨[], [], []⟩ = 0 := by
  have twice := sound.credit_add ⟨[], [], []⟩ ⟨[], [], []⟩
  simp only [Page.add, List.append_nil] at twice
  omega

end Account.Sound

namespace Hub

def page (hub : Hub) (event : HubEvent) (step : Progress) : Page :=
  ⟨Signal.booked step.signals, hub.begun event step, hub.answered event step⟩

/-- What the operations in flight owe. -/
def owed (hub : Hub) (account : Account) : Nat :=
  (hub.operations.map fun entry => account.owed entry.2).sum

/-- What the books rely on: names are given once, and only announced events are
fanned out. -/
structure Orderly (hub : Hub) : Prop where
  consistent : hub.Consistent
  distinct : hub.inFlight.Nodup
  announced : ∀ entry ∈ hub.operations, entry.2.Announced

/-! ## The operations in flight -/

theorem operation_split (hub : Hub) (id : OperationId) (operation : Operation)
    (distinct : hub.inFlight.Nodup)
    (found : hub.operation? id = some operation) :
    ∃ first last, hub.operations = first ++ (id, operation) :: last ∧
      (∀ next, (hub.putOperation id next).operations =
        first ++ (id, next) :: last) ∧
      (hub.forget id).operations = first ++ last ∧
      id ∉ (first ++ last).map Prod.fst := by
  obtain ⟨first, last, split, _⟩ := List.lookup_eq_some_iff.mp found
  have names : (first.map Prod.fst ++ id :: last.map Prod.fst).Nodup := by
    simpa [inFlight, split] using distinct
  have apart : ∀ entry ∈ first ++ last, entry.1 ≠ id := by
    intro entry member same
    have other := (List.nodup_middle.mp names).notMem
    rw [← List.map_append, ← same] at other
    exact other (List.mem_map_of_mem member)
  refine ⟨first, last, split, ?_, ?_, ?_⟩
  · intro next
    have kept : ∀ part, part ⊆ first ++ last → part.map (fun entry =>
        if entry.1 = id then (id, next) else entry) = part := by
      intro part within
      refine (List.map_congr_left fun entry member => ?_).trans (List.map_id part)
      exact if_neg (apart entry (within member))
    simp only [putOperation, split, List.map_append, List.map_cons, if_true]
    rw [kept first (List.subset_append_left _ _),
      kept last (List.subset_append_right _ _)]
  · have kept : (first ++ last).filter (fun entry => entry.1 != id) =
        first ++ last :=
      List.filter_eq_self.mpr fun entry member => by simpa using apart entry member
    rw [List.filter_append] at kept
    simpa [split] using kept
  · intro member
    obtain ⟨entry, present, same⟩ := List.mem_map.mp member
    exact apart entry present same

theorem owed_split (hub : Hub) (account : Account)
    (first last : List (OperationId × Operation)) (id : OperationId)
    (operation : Operation)
    (split : hub.operations = first ++ (id, operation) :: last) :
    hub.owed account = account.owed operation +
      ((first ++ last).map fun entry => account.owed entry.2).sum := by
  rw [owed, split]
  simp only [List.map_append, List.map_cons, List.sum_append, List.sum_cons]
  omega

/-- Operations that owe nothing may go. -/
theorem owed_filter (hub next : Hub) (account : Account)
    (kept : OperationId × Operation → Bool)
    (filtered : next.operations = hub.operations.filter kept)
    (nothing : ∀ entry ∈ hub.operations, kept entry = false →
      account.owed entry.2 = 0) :
    next.owed account = hub.owed account := by
  rw [owed, owed, filtered]
  generalize hub.operations = operations at nothing
  induction operations with
  | nil => rfl
  | cons entry rest ih =>
      have later := ih fun other member =>
        nothing other (List.mem_cons_of_mem _ member)
      cases stays : kept entry with
      | true => simp [stays, later]
      | false => simp [stays, later, nothing entry List.mem_cons_self stays]

/-! ## Pages -/

section

variable (hub : Hub) (event : HubEvent) (step : Progress)

theorem begun_nil (consistent : hub.Consistent)
    (older : ∀ id ∈ step.hub.inFlight, id ∈ hub.inFlight) :
    hub.begun event step = [] := by
  rw [begun, List.map_eq_nil_iff, List.filter_eq_nil_iff]
  intro entry member
  have known := older entry.1 (List.mem_map_of_mem member)
  have early := consistent.named entry.1 known
  simpa using early

theorem gone_nil (kept : ∀ id ∈ hub.inFlight, id ∈ step.hub.inFlight) :
    hub.gone step = [] := by
  rw [gone, List.map_eq_nil_iff, List.filter_eq_nil_iff]
  intro entry member
  simpa using kept entry.1 (List.mem_map_of_mem member)

theorem answered_nil (kept : ∀ id ∈ hub.inFlight, id ∈ step.hub.inFlight) :
    hub.answered event step = [] := by
  unfold answered
  rw [hub.gone_nil step kept]
  split <;> rfl

theorem page_kept (consistent : hub.Consistent)
    (same : step.hub.inFlight = hub.inFlight) :
    hub.page event step = ⟨Signal.booked step.signals, [], []⟩ := by
  rw [page, hub.begun_nil event step consistent fun id member => same ▸ member,
    hub.answered_nil event step fun id member => same ▸ member]

theorem page_begins (consistent : hub.Consistent) (operation : Operation)
    (grown : step.hub.operations =
      hub.operations ++ [(hub.nextOperation, operation)]) :
    hub.page event step =
      ⟨Signal.booked step.signals, [operation], []⟩ := by
  have older : hub.operations.filter
      (fun entry => decide (hub.nextOperation ≤ entry.1)) = [] := by
    rw [List.filter_eq_nil_iff]
    intro entry member
    simpa using consistent.named entry.1 (List.mem_map_of_mem member)
  have kept : ∀ id ∈ hub.inFlight, id ∈ step.hub.inFlight := by
    intro id member
    rw [inFlight, grown, List.map_append]
    exact List.mem_append_left _ member
  rw [page, hub.answered_nil event step kept, begun, grown, List.filter_append,
    older]
  simp

theorem page_ends (consistent : hub.Consistent) (id : OperationId)
    (operation : Operation) (reply : Reply)
    (first last : List (OperationId × Operation))
    (split : hub.operations = first ++ (id, operation) :: last)
    (left : step.hub.operations = first ++ last)
    (absent : id ∉ (first ++ last).map Prod.fst)
    (replied : step.reply = some reply) :
    hub.page event step =
      ⟨Signal.booked step.signals, [], [(operation, reply)]⟩ := by
  have remaining : step.hub.inFlight = (first ++ last).map Prod.fst := by
    rw [inFlight, left]
  have older : ∀ other ∈ step.hub.inFlight, other ∈ hub.inFlight := by
    intro other member
    rw [remaining] at member
    rw [inFlight, split]
    simp only [List.map_append, List.map_cons, List.mem_append,
      List.mem_cons] at member ⊢
    exact member.imp_right Or.inr
  have stays : ∀ part, part ⊆ first ++ last → part.filter (fun entry =>
      !((first ++ last).map Prod.fst).contains entry.1) = [] := by
    intro part within
    rw [List.filter_eq_nil_iff]
    intro entry member
    have known : entry.1 ∈ (first ++ last).map Prod.fst :=
      List.mem_map_of_mem (within member)
    rw [Bool.not_eq_true, Bool.not_eq_false']
    exact List.contains_iff_mem.mpr known
  have goes : hub.gone step = [operation] := by
    have leaves : (!((first ++ last).map Prod.fst).contains id) = true := by
      simpa using absent
    rw [gone, remaining, split, List.filter_append, List.filter_cons, leaves,
      stays first (List.subset_append_left _ _),
      stays last (List.subset_append_right _ _)]
    rfl
  rw [page, hub.begun_nil event step consistent older, answered, replied, goes]
  rfl

end

/-! ## Balances -/

section

variable (hub : Hub) (event : HubEvent) (step : Progress)

/-- A sound account balances over every deed that drops no notification. -/
theorem balances_deed (account : Account) (sound : account.Sound)
    (orderly : hub.Orderly) (deed : Deed hub step)
    (awaited : ∀ operation ∈ hub.dropped event step,
      operation.notifies = false) :
    account.debit (hub.page event step) + hub.owed account =
      account.credit (hub.page event step) + step.hub.owed account := by
  have consistent := orderly.consistent
  cases deed with
  | rests same unbooked =>
      have names : step.hub.inFlight = hub.inFlight :=
        congrArg (List.map Prod.fst) same
      rw [hub.page_kept event step consistent names, unbooked, sound.debit_nil,
        sound.credit_nil, owed, owed, same]
  | loses ids kept silent unbooked =>
      have remaining : step.hub.inFlight =
          hub.inFlight.filter fun id => !ids.contains id := by
        rw [inFlight, kept, inFlight, List.filter_map]
        rfl
      have older : ∀ id ∈ step.hub.inFlight, id ∈ hub.inFlight := by
        intro id member
        rw [remaining] at member
        exact (List.mem_filter.mp member).1
      have same : step.hub.owed account = hub.owed account := by
        apply hub.owed_filter step.hub account _ kept
        intro entry member lost
        -- Whatever is dropped notifies nobody, and so it owes nothing.
        apply sound.quiet
        apply awaited
        rw [dropped, silent]
        refine List.mem_map.mpr ⟨entry, List.mem_filter.mpr ⟨member, ?_⟩, rfl⟩
        rw [remaining]
        simp_all
      rw [same, page, unbooked, hub.begun_nil event step consistent older,
        answered, silent]
      dsimp only
      rw [sound.debit_nil, sound.credit_nil]
  | begins operation grown opens =>
      have opened := sound.opens operation _ opens
      rw [hub.page_begins event step consistent operation grown, opened, owed,
        owed, grown]
      simp only [List.map_append, List.sum_append, List.map_cons, List.map_nil,
        List.sum_cons, List.sum_nil]
      omega
  | moves id before after found moved moves =>
      obtain ⟨first, last, split, puts, _⟩ :=
        hub.operation_split id before orderly.distinct found
      have names : step.hub.inFlight = hub.inFlight := by
        rw [inFlight, moved]
        exact hub.inFlight_putOperation id after
      have changed := sound.moves before after _ moves
      have earlier := hub.owed_split account first last id before split
      have later := step.hub.owed_split account first last id after
        (moved.trans (puts after))
      rw [hub.page_kept event step consistent names]
      omega
  | ends id operation reply found left replied ends =>
      obtain ⟨first, last, split, _, forgotten, absent⟩ :=
        hub.operation_split id operation orderly.distinct found
      have remaining := left.trans forgotten
      have settled := sound.ends operation reply _ ends
      have earlier := hub.owed_split account first last id operation split
      have later : step.hub.owed account =
          ((first ++ last).map fun entry => account.owed entry.2).sum := by
        rw [owed, remaining]
      rw [hub.page_ends event step consistent id operation reply first last split
        remaining absent replied]
      omega

theorem orderly_create (config : HubConfig) : (create config).Orderly where
  consistent := consistent_create config
  distinct := List.nodup_nil
  announced := by intro entry member; cases member

theorem deed_of_orderly (now : Instant) (orderly : hub.Orderly)
    (ingress : event.isRaw = false) (reacted : hub.react now event = some step) :
    Deed hub step := by
  apply hub.react_deed now event step _ ingress reacted
  intro id operation found
  obtain ⟨first, last, split, _⟩ := List.lookup_eq_some_iff.mp found
  exact orderly.announced (id, operation) (by simp [split])

theorem orderly_fewer (next : Hub) (orderly : hub.Orderly)
    (consistent : next.Consistent)
    (fewer : next.operations.Sublist hub.operations) : next.Orderly where
  consistent := consistent
  distinct := orderly.distinct.sublist (fewer.map Prod.fst)
  announced := fun entry member => orderly.announced entry (fewer.subset member)

theorem orderly_react (now : Instant) (orderly : hub.Orderly)
    (ingress : event.isRaw = false) (reacted : hub.react now event = some step) :
    step.hub.Orderly := by
  have consistent := hub.consistent_turn event step orderly.consistent
    (hub.react_turn now event step reacted)
  have deed := hub.deed_of_orderly event step now orderly ingress reacted
  cases deed with
  | rests same _ =>
      apply hub.orderly_fewer step.hub orderly consistent
      rw [same]
  | loses ids kept _ _ =>
      apply hub.orderly_fewer step.hub orderly consistent
      rw [kept]
      exact List.filter_sublist
  | begins operation grown opens =>
      refine ⟨consistent, ?_, ?_⟩
      · have unborn : hub.nextOperation ∉ hub.inFlight := fun member =>
          Nat.lt_irrefl _ (orderly.consistent.named _ member)
        rw [inFlight, grown, List.map_append]
        exact orderly.distinct.append (List.nodup_singleton _)
          (by simpa using unborn)
      · intro entry member
        rw [grown, List.mem_append, List.mem_singleton] at member
        rcases member with earlier | rfl
        · exact orderly.announced entry earlier
        · exact operation.announced_of_opens _ opens
  | moves id before after found moved moves =>
      obtain ⟨first, last, split, puts, _⟩ :=
        hub.operation_split id before orderly.distinct found
      refine ⟨consistent, ?_, ?_⟩
      · have names := hub.inFlight_putOperation id after
        rw [inFlight, ← moved] at names
        rw [inFlight, names]
        exact orderly.distinct
      · intro entry member
        rw [moved, puts, List.mem_append, List.mem_cons] at member
        have others := orderly.announced entry
        rw [split, List.mem_append, List.mem_cons] at others
        rcases member with earlier | rfl | later
        · exact others (Or.inl earlier)
        · exact before.announced_of_moves after _ moves
        · exact others (Or.inr (Or.inr later))
  | ends id operation reply found left _ _ =>
      apply hub.orderly_fewer step.hub orderly consistent
      rw [left]
      exact List.filter_sublist

end

end Hub
end AlarmRelay
