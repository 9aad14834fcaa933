import AlarmRelay.Proofs.Hub.Accounts
import AlarmRelay.Proofs.Metrics

/-!
# Runs of a fleet

Each event of a fleet creates a hub or is a step of one hub, and the others stand
still.  So an account that is sound for one hub balances over every run of the fleet,
and the ledger and the log of the fleet are those of the signals shown along the run.
-/

set_option autoImplicit false

namespace AlarmRelay.Fleet

theorem step?_some (fleet : Fleet) (now : Instant) (index : Nat)
    (event : HubEvent) (hub : Hub) (step : Progress) :
    fleet.step? now index event = some (hub, step) ↔
      fleet.hubs[index]? = some hub ∧ hub.react now event = some step := by
  simp only [step?, Option.bind_eq_bind, Option.bind_eq_some_iff, Option.pure_def,
    Option.some.injEq, Prod.mk.injEq]
  constructor
  · rintro ⟨_, found, _, reacted, rfl, rfl⟩
    exact ⟨found, reacted⟩
  · rintro ⟨found, reacted⟩
    exact ⟨hub, found, step, reacted, rfl, rfl⟩

theorem run_hub (fleet final : Fleet) (now : Instant) (index : Nat)
    (event : HubEvent) (rest : FleetTimeline) :
    fleet.run ((now, .hub index event) :: rest) = some final ↔
      ∃ hub step, fleet.step? now index event = some (hub, step) ∧
        (fleet.settle index step).run rest = some final := by
  simp only [run]
  cases found : fleet.step? now index event with
  | none => simp
  | some pair =>
      obtain ⟨hub, step⟩ := pair
      simp

/-- A created hub is a new one that has shown one log record. -/
theorem create_cases (fleet : Fleet) (config : HubConfig) :
    fleet.create config = fleet ∨
      fleet.create config =
        { fleet.note [.log (.hubCreated config)] with
          hubs := fleet.hubs ++ [Hub.create config] } := by
  unfold create
  split
  · exact Or.inl rfl
  · rename_i hub signals created
    unfold Hub.create? at created
    cases valid : config.validate with
    | error reason =>
        rw [valid] at created
        cases created
    | ok accepted =>
        rw [valid] at created
        cases created
        exact Or.inr rfl

/-- What the creation of a hub shows is not booked. -/
theorem create_notes (fleet : Fleet) (config : HubConfig) :
    ∃ shown, Signal.booked shown = [] ∧
      (fleet.create config).ledger = (fleet.note shown).ledger ∧
      (fleet.create config).log = (fleet.note shown).log := by
  rcases fleet.create_cases config with same | made
  · rw [same]
    exact ⟨[], rfl, rfl, (List.append_nil _).symm⟩
  · rw [made]
    exact ⟨[.log (.hubCreated config)], rfl, rfl, rfl⟩

theorem mem_settle (fleet : Fleet) (index : Nat) (step : Progress) (hub : Hub)
    (member : hub ∈ (fleet.settle index step).hubs) :
    hub ∈ fleet.hubs ∨ hub = step.hub :=
  List.mem_or_eq_of_mem_set member

/-! ## The books of a fleet -/

/-- The pages of all events of a run. -/
def page (fleet : Fleet) (timeline : FleetTimeline) : Page where
  booked := fleet.observe (fun _ _ step => Signal.booked step.signals) timeline
  begun := fleet.observe Hub.begun timeline
  answered := fleet.observe Hub.answered timeline

theorem page_hub (fleet : Fleet) (now : Instant) (index : Nat)
    (event : HubEvent) (rest : FleetTimeline) (hub : Hub) (step : Progress)
    (stepped : fleet.step? now index event = some (hub, step)) :
    fleet.page ((now, .hub index event) :: rest) =
      (hub.page event step).add ((fleet.settle index step).page rest) := by
  simp only [page, observe, stepped]
  rfl

def owed (fleet : Fleet) (account : Account) : Nat :=
  (fleet.hubs.map fun hub => hub.owed account).sum

theorem sum_set {α : Type} (weight : α → Nat) (items : List α) (index : Nat)
    (old new : α) (found : items[index]? = some old) :
    ((items.set index new).map weight).sum + weight old =
      (items.map weight).sum + weight new := by
  induction items generalizing index with
  | nil => cases found
  | cons head rest ih =>
      cases index with
      | zero =>
          cases found
          simp only [List.set_cons_zero, List.map_cons, List.sum_cons]
          omega
      | succ index =>
          have later := ih index found
          simp only [List.set_cons_succ, List.map_cons, List.sum_cons]
          omega

theorem owed_settle (fleet : Fleet) (account : Account) (index : Nat) (hub : Hub)
    (step : Progress) (found : fleet.hubs[index]? = some hub) :
    (fleet.settle index step).owed account + hub.owed account =
      fleet.owed account + step.hub.owed account :=
  sum_set (fun hub => hub.owed account) fleet.hubs index hub step.hub found

theorem owed_create (fleet : Fleet) (account : Account) (config : HubConfig) :
    (fleet.create config).owed account = fleet.owed account := by
  rcases fleet.create_cases config with same | made
  · rw [same]
  · rw [made, owed, owed, List.map_append, List.sum_append]
    rfl

theorem owed_idle (fleet : Fleet) (account : Account) (sound : account.Sound)
    (idle : ∀ hub ∈ fleet.hubs, ∀ entry ∈ hub.operations,
      entry.2.notifies = false) : fleet.owed account = 0 := by
  rw [owed, List.sum_eq_zero_iff_forall_eq_nat]
  intro amount member
  obtain ⟨hub, present, rfl⟩ := List.mem_map.mp member
  rw [Hub.owed, List.sum_eq_zero_iff_forall_eq_nat]
  intro amount member
  obtain ⟨entry, flying, rfl⟩ := List.mem_map.mp member
  exact sound.quiet _ (idle hub present entry flying)

theorem orderly_create (fleet : Fleet) (config : HubConfig)
    (orderly : ∀ hub ∈ fleet.hubs, hub.Orderly) :
    ∀ hub ∈ (fleet.create config).hubs, hub.Orderly := by
  intro hub member
  rcases fleet.create_cases config with same | made
  · rw [same] at member
    exact orderly hub member
  · rw [made, List.mem_append, List.mem_singleton] at member
    rcases member with earlier | rfl
    · exact orderly hub earlier
    · exact Hub.orderly_create config

/-- A sound account balances over every run in which every notification is awaited. -/
theorem balances_run (account : Account) (sound : account.Sound)
    (fleet final : Fleet) (timeline : FleetTimeline)
    (orderly : ∀ hub ∈ fleet.hubs, hub.Orderly)
    (reached : fleet.run timeline = some final)
    (ingress : ∀ entry ∈ timeline, entry.2.isRaw = false)
    (awaited : ∀ operation ∈ fleet.observe Hub.dropped timeline,
      operation.notifies = false) :
    account.debit (fleet.page timeline) + fleet.owed account =
      account.credit (fleet.page timeline) + final.owed account := by
  induction timeline generalizing fleet with
  | nil =>
      cases reached
      have debit : account.debit (final.page []) = 0 := sound.debit_nil
      have credit : account.credit (final.page []) = 0 := sound.credit_nil
      omega
  | cons entry rest ih =>
      obtain ⟨now, event⟩ := entry
      have onward : ∀ entry ∈ rest, entry.2.isRaw = false := fun entry member =>
        ingress entry (List.mem_cons_of_mem _ member)
      cases event with
      | create config =>
          have later := ih (fleet.create config)
            (fleet.orderly_create config orderly) reached onward awaited
          rw [fleet.owed_create account config] at later
          exact later
      | hub index event =>
          obtain ⟨hub, step, stepped, restRun⟩ :=
            (run_hub _ _ _ _ _ _).mp reached
          obtain ⟨found, reacted⟩ := (step?_some _ _ _ _ _ _).mp stepped
          have ordered := orderly hub (List.mem_of_getElem? found)
          have plain : event.isRaw = false := ingress _ List.mem_cons_self
          simp only [observe, stepped, List.forall_mem_append] at awaited
          have deed := hub.deed_of_orderly event step now ordered plain reacted
          have here := hub.balances_deed event step account sound ordered deed
            awaited.1
          have next := hub.orderly_react event step now ordered plain reacted
          have later := ih (fleet.settle index step)
            (by
              intro other member
              rcases fleet.mem_settle index step other member with earlier | rfl
              · exact orderly other earlier
              · exact next)
            restRun onward awaited.2
          have moved := fleet.owed_settle account index hub step found
          rw [fleet.page_hub now index event rest hub step stepped,
            sound.debit_add, sound.credit_add]
          omega

/-- The ledger and the log are those of the signals shown, among which the books
have every signal that they are about. -/
theorem notes_run (fleet final : Fleet) (timeline : FleetTimeline)
    (reached : fleet.run timeline = some final) :
    ∃ signals, final.ledger = fleet.ledger.recordAll (Signal.metrics signals) ∧
      final.log = fleet.log ++ Signal.logs signals ∧
      Signal.booked signals = (fleet.page timeline).booked := by
  induction timeline generalizing fleet with
  | nil =>
      cases reached
      exact ⟨[], rfl, (List.append_nil _).symm, rfl⟩
  | cons entry rest ih =>
      obtain ⟨now, event⟩ := entry
      have noted : ∀ (shown : List Signal) (next : Fleet),
          next.ledger = (fleet.note shown).ledger →
          next.log = (fleet.note shown).log → next.run rest = some final →
          ∃ signals,
            final.ledger = fleet.ledger.recordAll (Signal.metrics signals) ∧
            final.log = fleet.log ++ Signal.logs signals ∧
            Signal.booked signals =
              Signal.booked shown ++ (next.page rest).booked := by
        intro shown next ledger log restRun
        obtain ⟨signals, recorded, logged, booked⟩ := ih next restRun
        refine ⟨shown ++ signals, ?_, ?_, ?_⟩
        · rw [recorded, ledger, Signal.metrics_append]
          exact List.foldl_append.symm
        · rw [logged, log, Signal.logs_append]
          exact List.append_assoc _ _ _
        · rw [Signal.booked_append, booked]
      cases event with
      | create config =>
          obtain ⟨shown, unbooked, ledger, log⟩ := fleet.create_notes config
          have later := noted shown (fleet.create config) ledger log reached
          rw [unbooked] at later
          exact later
      | hub index event =>
          obtain ⟨hub, step, stepped, restRun⟩ :=
            (run_hub _ _ _ _ _ _).mp reached
          rw [fleet.page_hub now index event rest hub step stepped]
          exact noted step.signals (fleet.settle index step) rfl rfl restRun

end AlarmRelay.Fleet
