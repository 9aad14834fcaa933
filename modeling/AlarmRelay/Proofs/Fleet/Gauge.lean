import AlarmRelay.Proofs.Fleet.Run
import AlarmRelay.Proofs.Hub.Gauge

/-!
# The gauge counts the registrations

All hubs of a fleet add to one gauge, and each event changes it by what the
registrations of one hub change.  So at every point of every run the gauge is the
number of registrations in the registries that are still held.
-/

set_option autoImplicit false

namespace AlarmRelay

theorem Ledger.listenersActive_recordAll (ledger : Ledger)
    (changes : List MetricChange) :
    (ledger.recordAll changes).listenersActive =
      ledger.listenersActive + (changes.map MetricChange.rise).sum := by
  induction changes generalizing ledger with
  | nil => exact (add_zero _).symm
  | cons change rest ih =>
      have here : (ledger.record change).listenersActive =
          ledger.listenersActive + change.rise := by
        cases change with
        | listeners delta => rfl
        | _ => exact (add_zero _).symm
      have later := ih (ledger.record change)
      rw [here] at later
      rw [List.map_cons, List.sum_cons, ← add_assoc]
      exact later

namespace Fleet

theorem gauge_note (fleet : Fleet) (signals : List Signal) :
    (fleet.note signals).ledger.listenersActive =
      fleet.ledger.listenersActive + Signal.rise signals :=
  fleet.ledger.listenersActive_recordAll (Signal.metrics signals)

/-- The registrations in the registries that have not been given up. -/
def counted (fleet : Fleet) : Nat :=
  (fleet.hubs.map Hub.counted).sum

/-- Every hub is tidy, and the gauge counts its registrations. -/
structure Gauged (fleet : Fleet) : Prop where
  tidy : ∀ hub ∈ fleet.hubs, hub.Tidy
  gauge : fleet.ledger.listenersActive = fleet.counted

/-- In tidy hubs the registries that have not been given up are those that somebody
holds. -/
theorem counted_registrations (fleet : Fleet)
    (tidy : ∀ hub ∈ fleet.hubs, hub.Tidy) :
    fleet.counted = fleet.registrations := by
  rw [counted, registrations]
  generalize fleet.hubs = hubs at tidy
  induction hubs with
  | nil => rfl
  | cons hub rest ih =>
      have later := ih fun other member =>
        tidy other (List.mem_cons_of_mem _ member)
      have here : hub.released = !hub.isHeld := tidy hub List.mem_cons_self
      cases held : hub.isHeld with
      | true => simp [Hub.counted, here, held, later]
      | false => simp [Hub.counted, here, held, later]

theorem gauged_empty : empty.Gauged where
  tidy := by intro hub member; cases member
  gauge := rfl

/-- A new hub has no listeners. -/
theorem gauged_create (fleet : Fleet) (config : HubConfig)
    (gauged : fleet.Gauged) : (fleet.create config).Gauged := by
  rcases fleet.create_cases config with same | made
  · rw [same]
    exact gauged
  · rw [made]
    constructor
    · intro hub member
      rcases List.mem_append.mp member with earlier | new
      · exact gauged.tidy hub earlier
      · rw [List.mem_singleton.mp new]
        rfl
    · have counted : ({ fleet.note [.log (.hubCreated config)] with
          hubs := fleet.hubs ++ [Hub.create config] } : Fleet).counted =
            fleet.counted := by
        rw [Fleet.counted, Fleet.counted, List.map_append, List.sum_append]
        rfl
      rw [counted, ← gauged.gauge]
      rfl

/-- A step of one hub moves the gauge with the registrations of that hub. -/
theorem gauged_settle (fleet : Fleet) (now : Instant) (index : Nat)
    (event : HubEvent) (hub : Hub) (step : Progress) (gauged : fleet.Gauged)
    (stepped : fleet.step? now index event = some (hub, step)) :
    (fleet.settle index step).Gauged := by
  obtain ⟨found, reacted⟩ := (step?_some _ _ _ _ _ _).mp stepped
  have booked := hub.booked_react now event step
    (gauged.tidy hub (List.mem_of_getElem? found)) reacted
  constructor
  · intro other member
    rcases fleet.mem_settle index step other member with earlier | rfl
    · exact gauged.tidy other earlier
    · exact booked.tidy
  · have noted := fleet.gauge_note step.signals
    have moved := sum_set Hub.counted fleet.hubs index hub step.hub found
    have rise := booked.rise
    have before := gauged.gauge
    have settled : (fleet.settle index step).ledger =
      (fleet.note step.signals).ledger := rfl
    rw [settled, noted, before]
    simp only [counted, settle] at moved ⊢
    omega

theorem gauged_run (fleet final : Fleet) (timeline : FleetTimeline)
    (gauged : fleet.Gauged) (reached : fleet.run timeline = some final) :
    final.Gauged := by
  induction timeline generalizing fleet with
  | nil =>
      cases reached
      exact gauged
  | cons entry rest ih =>
      obtain ⟨now, event⟩ := entry
      cases event with
      | create config =>
          exact ih (fleet.create config) (fleet.gauged_create config gauged)
            reached
      | hub index event =>
          obtain ⟨hub, step, stepped, restRun⟩ :=
            (run_hub _ _ _ _ _ _).mp reached
          exact ih (fleet.settle index step)
            (fleet.gauged_settle now index event hub step gauged stepped) restRun

/-- At every point of every run of any number of hubs the gauge is the number of
registrations in the registries that somebody still holds; so it is never negative,
and it is zero again once nobody holds any. -/
theorem gauge_counts_registrations (timeline : FleetTimeline) (fleet : Fleet)
    (reached : Fleet.empty.run timeline = some fleet) :
    fleet.ledger.listenersActive = fleet.registrations ∧
      0 ≤ fleet.ledger.listenersActive ∧
      ((∀ hub ∈ fleet.hubs, hub.isHeld = false) →
        fleet.ledger.listenersActive = 0) := by
  have gauged := gauged_run Fleet.empty fleet timeline gauged_empty reached
  have gauge : fleet.ledger.listenersActive = fleet.registrations := by
    rw [gauged.gauge, fleet.counted_registrations gauged.tidy]
  refine ⟨gauge, ?_, ?_⟩
  · rw [gauge]
    exact Int.natCast_nonneg _
  · intro unheld
    have nobody : fleet.hubs.filter Hub.isHeld = [] := by
      rw [List.filter_eq_nil_iff]
      intro hub member
      rw [unheld hub member]
      exact Bool.false_ne_true
    rw [gauge, registrations, nobody]
    rfl

/-- Two hubs share a listener; one refuses it a second time, a third listener gives
up waiting for a fan-out, and then the owner of that hub lets it go, but its loop is
still inside the tick. -/
def keptAliveTimeline : FleetTimeline :=
  [(⟨0⟩, .create .standard), (⟨0⟩, .create .standard),
    (⟨0⟩, .hub 0 (.ask (.subscribe ⟨1, "pager"⟩))), (⟨0⟩, .hub 0 (.advance 0)),
    (⟨0⟩, .hub 1 (.ask (.subscribe ⟨1, "pager"⟩))), (⟨0⟩, .hub 1 (.advance 0)),
    (⟨0⟩, .hub 0 (.ask (.subscribe ⟨2, "mail"⟩))), (⟨0⟩, .hub 0 (.advance 1)),
    (⟨0⟩, .hub 0 (.ask (.subscribe ⟨1, "pager"⟩))), (⟨0⟩, .hub 0 (.advance 2)),
    (⟨0⟩, .hub 0 (.start true)), (⟨0⟩, .hub 0 (.advanceLoop 0)),
    (⟨0⟩, .hub 0 (.advanceLoop 0)), (⟨0⟩, .hub 0 (.advanceLoop 0)),
    (⟨1⟩, .hub 0 (.answerScan 3 (.alarms []))), (⟨1⟩, .hub 0 (.advanceLoop 0)),
    (⟨2⟩, .hub 0 (.ask (.subscribe ⟨3, "late"⟩))), (⟨2⟩, .hub 0 (.abandon 4)),
    (⟨3⟩, .hub 0 .close)]

/-- The tick ends, the loop exits, and the other hub is let go too. -/
def lettingGoTimeline : FleetTimeline :=
  [(⟨4⟩, .hub 0 (.answerCall 3 .accepted)),
    (⟨4⟩, .hub 0 (.answerCall 3 (.panicked .other))),
    (⟨4⟩, .hub 0 (.advanceLoop 0)), (⟨4⟩, .hub 0 (.advanceLoop 0)),
    (⟨5⟩, .hub 1 .close)]

theorem gauge_counts_registrations_keptAlive :
    (∃ fleet, Fleet.empty.run keptAliveTimeline = some fleet ∧
      fleet.registrations = 3 ∧ fleet.ledger.listenersActive = 3) ∧
    ∃ fleet, Fleet.empty.run (keptAliveTimeline ++ lettingGoTimeline) =
        some fleet ∧
      (∀ hub ∈ fleet.hubs, hub.isHeld = false) ∧
      fleet.ledger.listenersActive = 0 :=
  ⟨⟨_, rfl, by decide, (gauge_counts_registrations keptAliveTimeline _ rfl).1⟩,
    ⟨_, rfl, by decide,
      (gauge_counts_registrations (keptAliveTimeline ++ lettingGoTimeline) _
        rfl).2.2 (by decide)⟩⟩

end Fleet
end AlarmRelay
