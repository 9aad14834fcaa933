import AlarmRelay.Proofs.Fleet.Books

/-!
# The metrics of a fleet account for its runs

What stands in the ledger and in the log of a fleet is what was booked along its run,
so the accounts read as equations between the metrics, the answers and the log.
-/

set_option autoImplicit false

namespace AlarmRelay.Fleet

/-- The ledger and the log of a fleet are those of the booked signals. -/
structure Reads (fleet : Fleet) (booked : List Signal) : Prop where
  events : ∀ kind, fleet.ledger.events.count kind =
    booked.count (.metric (.event kind))
  failures : ∀ path, fleet.ledger.failures.count path =
    booked.count (.metric (.listenerFailure path))
  ticks : ∀ outcome, fleet.ledger.ticks.count outcome =
    booked.count (.metric (.tick outcome))
  latencies : ∀ path, fleet.ledger.latencies.count path =
    booked.count (.metric (.latency path))
  sizes : ∀ size, fleet.ledger.snapshotSizes.count size =
    booked.count (.metric (.snapshotSize size))
  entries : ∀ path, (fleet.failureEntries path).length =
    booked.countP (Signal.isFailureOn path)

theorem reads_run (fleet : Fleet) (timeline : FleetTimeline)
    (reached : Fleet.empty.run timeline = some fleet) :
    fleet.Reads (Fleet.empty.page timeline).booked := by
  obtain ⟨signals, recorded, logged, booked⟩ :=
    Fleet.empty.notes_run fleet timeline reached
  have counted : ∀ change, Signal.isBooked (.metric change) = true →
      (Signal.metrics signals).count change =
        (Fleet.empty.page timeline).booked.count (.metric change) := by
    intro change known
    rw [← booked, Signal.booked, List.count_filter known, Signal.count_metrics]
  constructor
  · intro kind
    rw [recorded, Ledger.events_recordAll, counted _ rfl]
    exact Nat.zero_add _
  · intro path
    rw [recorded, Ledger.failures_recordAll, counted _ rfl]
    exact Nat.zero_add _
  · intro outcome
    rw [recorded, Ledger.ticks_recordAll, counted _ rfl]
    exact Nat.zero_add _
  · intro path
    rw [recorded, Ledger.latencies_recordAll, counted _ rfl]
    exact Nat.zero_add _
  · intro size
    rw [recorded, Ledger.sizes_recordAll, counted _ rfl]
    exact Nat.zero_add _
  · intro path
    have log : fleet.log = Signal.logs signals := logged
    rw [failureEntries, log, Signal.count_failureEntries, ← booked, Signal.booked,
      List.countP_filter]
    apply List.countP_congr
    intro signal _
    simpa using signal.isBooked_of_isFailureOn path

/-- How the metrics and the log of a fleet account for a run of it. -/
structure Accounted (fleet : Fleet) (timeline : FleetTimeline) : Prop where
  /-- Every announced event was measured under its kind. -/
  announced : ∀ kind, fleet.ledger.events.count kind =
    Fleet.empty.announcements kind timeline
  /-- Every fan-out that ended was timed on its path. -/
  timed : ∀ path, fleet.ledger.latencies.count (DeliveryPath.label path) =
    (Fleet.empty.reports path timeline).length
  /-- Every announced change of an alarm was fanned out. -/
  upserts : (ContentKind.all.map fun kind =>
      fleet.ledger.events.count kind.label).sum =
    fleet.ledger.latencies.count "upsert"
  deletes : fleet.ledger.events.count "deleted" =
    fleet.ledger.latencies.count "delete"
  /-- Every tick was measured with one outcome. -/
  ticks : fleet.ledger.ticks.count "skipped"
      + fleet.ledger.ticks.count "delivered"
      + fleet.ledger.ticks.count "failed" =
    Fleet.empty.ticks timeline
  /-- Every delivered tick was timed, and its size was observed. -/
  snapshots : fleet.ledger.ticks.count "delivered" =
    fleet.ledger.latencies.count "snapshot"
  observations : fleet.ledger.ticks.count "delivered" =
    fleet.ledger.snapshotSizes.length
  sizes : fleet.ledger.snapshotSizes.Perm
    ((Fleet.empty.outcomes timeline).filterMap TickOutcome.alarms?)
  /-- Every failure was measured, reported and logged. -/
  failures : ∀ path, fleet.ledger.failures.count (DeliveryPath.label path) =
    ((Fleet.empty.reports path timeline).map DispatchReport.failed).sum
  entries : ∀ path, fleet.ledger.failures.count (DeliveryPath.label path) =
    (fleet.failureEntries path).length

/-- In every run of any number of hubs in which every notification is awaited to its
end, whenever none is in flight, the metrics account for the run. -/
theorem metrics_account_for_runs (timeline : FleetTimeline) (fleet : Fleet)
    (reached : Fleet.empty.run timeline = some fleet)
    (ingress : ∀ entry ∈ timeline, entry.2.isRaw = false)
    (awaited : ∀ operation ∈ Fleet.empty.observe Hub.dropped timeline,
      operation.notifies = false)
    (idle : ∀ hub ∈ fleet.hubs, ∀ entry ∈ hub.operations,
      entry.2.notifies = false) : fleet.Accounted timeline := by
  have read := reads_run fleet timeline reached
  have balanced : ∀ account : Account, account.Sound →
      account.debit (Fleet.empty.page timeline) =
        account.credit (Fleet.empty.page timeline) := by
    intro account sound
    have balance := balances_run account sound Fleet.empty fleet timeline
      (by intro hub member; cases member) reached ingress awaited
    have settled := fleet.owed_idle account sound idle
    have fresh : Fleet.empty.owed account = 0 := rfl
    omega
  have sizes : fleet.ledger.snapshotSizes.Perm
      ((Fleet.empty.outcomes timeline).filterMap TickOutcome.alarms?) := by
    rw [List.perm_iff_count]
    intro size
    rw [read.sizes]
    exact balanced _ (Account.sizes_sound size)
  constructor
  · intro kind
    rw [read.events]
    exact balanced _ (Account.announcements_sound kind)
  · intro path
    rw [read.latencies]
    exact balanced _ (Account.timings_sound path)
  · have announced := balanced _ (Account.dispatches_sound .upsert (by decide))
    simp only [read.events]
    rw [read.latencies]
    simpa [Account.dispatches, DeliveryPath.causes, DeliveryPath.label,
      Function.comp_def] using announced
  · have announced := balanced _ (Account.dispatches_sound .delete (by decide))
    rw [read.events, read.latencies]
    simpa [Account.dispatches, DeliveryPath.causes, DeliveryPath.label]
      using announced
  · rw [read.ticks, read.ticks, read.ticks]
    exact (balanced _ Account.ticks_sound).symm
  · rw [read.ticks, read.latencies]
    exact balanced _ Account.snapshots_sound
  · rw [read.ticks, sizes.length_eq]
    exact balanced _ Account.deliveries_sound
  · exact sizes
  · intro path
    rw [read.failures]
    exact balanced _ (Account.failures_sound path)
  · intro path
    rw [read.failures, read.entries]
    exact balanced _ (Account.records_sound path)

/-- Two hubs with one listener, which panics over the deletion that one of them
announces and rejects the snapshot of the other. -/
def twoHubTimeline : FleetTimeline :=
  [(⟨0⟩, .create .standard), (⟨0⟩, .create .standard),
    (⟨0⟩, .hub 0 (.ask (.subscribe ⟨1, "first"⟩))), (⟨0⟩, .hub 0 (.advance 0)),
    (⟨0⟩, .hub 1 (.ask (.subscribe ⟨1, "first"⟩))), (⟨0⟩, .hub 1 (.advance 0)),
    (⟨1⟩, .hub 0 (.ask (.publish (.deleted 7 "disk")))),
    (⟨1⟩, .hub 1 (.ask .snapshot)), (⟨1⟩, .hub 0 (.advance 1)),
    (⟨1⟩, .hub 1 (.advance 1)), (⟨2⟩, .hub 0 (.answerCall 1 (.panicked .other))),
    (⟨2⟩, .hub 1 (.answerScan 1 (.alarms []))), (⟨2⟩, .hub 1 (.advance 1)),
    (⟨3⟩, .hub 0 (.advance 1)),
    (⟨3⟩, .hub 1 (.answerCall 1 (.failed (.rejected "full")))),
    (⟨3⟩, .hub 1 (.advance 1))]

theorem metrics_account_for_runs_faulty :
    ∃ fleet, Fleet.empty.run twoHubTimeline = some fleet ∧
      fleet.ledger.failures = [("delete", 1), ("snapshot", 1)] ∧
      fleet.ledger.ticks = [("delivered", 1)] ∧
      fleet.Accounted twoHubTimeline :=
  ⟨_, rfl, by decide, by decide,
    metrics_account_for_runs twoHubTimeline _ rfl (by decide) (by decide)
      (by decide)⟩

end AlarmRelay.Fleet
