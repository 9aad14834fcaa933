import AlarmRelay.Proofs.Fleet.Run

/-!
# The books of a fleet balance

The accounts that tie the measurements of a fleet to one another and to what its
operations answered.  Each is sound for one operation: what begins is measured when
it begins, what ends is measured when it ends, and in between it owes the difference.
So when nothing is in flight any more the two sides of every account are equal.
-/

set_option autoImplicit false

namespace AlarmRelay

namespace Account

/-- Events measured under a kind against those that were announced. -/
def announcements (kind : String) : Account where
  debit page := page.booked.count (.metric (.event kind))
  credit page := page.begun.countP (Operation.announces kind)
  owed _ := 0

/-- Latencies measured on a path against the reports on it. -/
def timings (path : DeliveryPath) : Account where
  debit page := page.booked.count (.metric (.latency path.label))
  credit page := (page.answered.filterMap path.report?).length
  owed _ := 0

/-- Announced events against the latencies of their path. -/
def dispatches (path : DeliveryPath) : Account where
  debit page := (path.causes.map fun cause =>
    page.booked.count (.metric (.event cause))).sum
  credit page := page.booked.count (.metric (.latency path.label))
  owed operation := if operation.path? = some path then 1 else 0

/-- Ticks against the outcomes that are measured. -/
def ticks : Account where
  debit page := page.begun.countP Operation.isTick
  credit page := page.booked.count (.metric (.tick "skipped"))
    + page.booked.count (.metric (.tick "delivered"))
    + page.booked.count (.metric (.tick "failed"))
  owed operation := if operation.isTick then 1 else 0

/-- Ticks measured as delivered against the latencies of snapshots. -/
def snapshots : Account where
  debit page := page.booked.count (.metric (.tick "delivered"))
  credit page := page.booked.count (.metric (.latency "snapshot"))
  owed _ := 0

/-- The sizes of the snapshots that ticks answered with. -/
def deliveredSizes (answered : List (Operation × Reply)) : List Nat :=
  (answered.filterMap fun entry => entry.2.outcome?).filterMap
    TickOutcome.alarms?

/-- Ticks measured as delivered against their answers. -/
def deliveries : Account where
  debit page := page.booked.count (.metric (.tick "delivered"))
  credit page := (deliveredSizes page.answered).length
  owed _ := 0

/-- Observations of one snapshot size against the answers with that size. -/
def sizes (size : Nat) : Account where
  debit page := page.booked.count (.metric (.snapshotSize size))
  credit page := (deliveredSizes page.answered).count size
  owed operation :=
    match operation.fanOut? with
    | some (.snapshot alarms, _) => if alarms.length = size then 1 else 0
    | _ => 0

/-- The failures that a fan-out has counted so far. -/
def failedSoFar : FanOut → Nat
  | .awaitingLock => 0
  | .calling _ report => report.failed

/-- Failures measured on a path against the reports on it. -/
def failures (path : DeliveryPath) : Account where
  debit page := page.booked.count (.metric (.listenerFailure path.label))
  credit page :=
    ((page.answered.filterMap path.report?).map DispatchReport.failed).sum
  owed operation :=
    match operation.fanOut? with
    | some (delivery, fanOut) =>
        if delivery.path = path then failedSoFar fanOut else 0
    | none => 0

end Account

/-- Whether a signal is the log record of a listener that failed on a path. -/
def Signal.isFailureOn (path : DeliveryPath) : Signal → Bool
  | .log record => record.entry.isFailureOn path
  | .metric _ => false

/-- Failures measured on a path against the log. -/
def Account.records (path : DeliveryPath) : Account where
  debit page := page.booked.count (.metric (.listenerFailure path.label))
  credit page := page.booked.countP (Signal.isFailureOn path)
  owed _ := 0

/-! ## Labels -/

theorem DeliveryPath.label_eq_iff (path other : DeliveryPath) :
    path.label = other.label ↔ path = other := by
  cases path <;> cases other <;> decide

/-- An event is announced under one of the causes of its path. -/
theorem DeliveryPath.count_causes (event : AlarmEvent) (path : DeliveryPath)
    (incremental : path ≠ .snapshot) :
    (path.causes.map fun cause => if event.label = cause then 1 else 0).sum =
      if (Delivery.ofEvent event).path = path then 1 else 0 := by
  cases event with
  | deleted id key =>
      cases path with
      | snapshot => exact absurd rfl incremental
      | upsert | delete => rfl
  | content kind alarm =>
      cases path with
      | snapshot => exact absurd rfl incremental
      | upsert => cases kind <;> rfl
      | delete => cases kind <;> rfl

section

variable (operation : Operation) (quiet : operation.notifies = false)

include quiet

theorem Operation.isTick_of_quiet : operation.isTick = false := by
  cases operation <;> first | rfl | cases quiet

theorem Operation.announces_of_quiet (kind : String) :
    operation.announces kind = false := by
  cases operation <;> first | rfl | cases quiet

theorem Operation.path?_of_quiet : operation.path? = none := by
  cases operation <;> first | rfl | cases quiet

theorem Operation.fanOut?_of_quiet : operation.fanOut? = none := by
  cases operation <;> first | rfl | cases quiet

end

/-- An operation that moves on stays on its path, and neither an event nor the end of
an operation is booked for it. -/
structure Operation.Underway (before after : Operation)
    (booked : List Signal) : Prop where
  tick : after.isTick = before.isTick
  path : after.path? = before.path?
  events : ∀ kind, booked.count (.metric (.event kind)) = 0
  latencies : ∀ path, booked.count (.metric (.latency path)) = 0
  outcomes : ∀ outcome, booked.count (.metric (.tick outcome)) = 0

theorem Operation.underway_of_moves (before after : Operation)
    (booked : List Signal) (moves : before.Moves after booked) :
    before.Underway after booked := by
  cases moves with
  | scans => exact ⟨rfl, rfl, fun _ => rfl, fun _ => rfl, fun _ => rfl⟩
  | fetches alarms => constructor <;> simp [isTick, path?]
  | announces event before after _ walks =>
      cases walks <;> constructor <;> simp [isTick, path?]
  | delivers alarms before after _ walks =>
      cases walks <;> constructor <;> simp [isTick, path?]

/-- The failures on a path are logged under its causes and under no others. -/
theorem LogRecord.isFailureOn_listenerFailed (path : DeliveryPath)
    (name cause : String) (error : ListenerError) :
    (LogRecord.listenerFailed name cause error).entry.isFailureOn path =
      decide (cause ∈ path.causes) := by
  simp [LogRecord.entry, LogEntry.isFailureOn, List.any_eq]

theorem DeliveryPath.mem_causes_event (event : AlarmEvent) (path : DeliveryPath) :
    event.label ∈ path.causes ↔ (Delivery.ofEvent event).path = path := by
  cases event with
  | deleted id key =>
      cases path <;>
        simp [AlarmEvent.label, Delivery.ofEvent, Delivery.path,
          DeliveryPath.causes, ContentKind.all, ContentKind.label]
  | content kind alarm =>
      cases kind <;> cases path <;>
        simp [AlarmEvent.label, Delivery.ofEvent, Delivery.path,
          DeliveryPath.causes, ContentKind.all, ContentKind.label]

theorem DeliveryPath.mem_causes_snapshot (path : DeliveryPath) :
    "snapshot" ∈ path.causes ↔ DeliveryPath.snapshot = path := by
  cases path <;> decide

theorem Signal.isBooked_of_isFailureOn (path : DeliveryPath) (signal : Signal)
    (failure : signal.isFailureOn path = true) : signal.isBooked = true := by
  cases signal with
  | metric change => cases failure
  | log record =>
      cases record <;>
        first
        | rfl
        | simp [isFailureOn, LogRecord.entry, LogEntry.isFailureOn] at failure

theorem Signal.count_failureEntries (path : DeliveryPath) (signals : List Signal) :
    (((logs signals).map LogRecord.entry).filter
        (LogEntry.isFailureOn path)).length =
      signals.countP (isFailureOn path) := by
  induction signals with
  | nil => rfl
  | cons signal rest ih =>
      cases signal with
      | metric change => simpa [logs, isFailureOn] using ih
      | log record =>
          have head : logs (.log record :: rest) = record :: logs rest := rfl
          rw [head, List.map_cons, List.filter_cons, List.countP_cons, ← ih]
          cases here : record.entry.isFailureOn path <;>
            simp [isFailureOn, here]

namespace Account

theorem announcements_sound (kind : String) : (announcements kind).Sound where
  debit_add first second := by simp [announcements, Page.add]
  credit_add first second := by simp [announcements, Page.add]
  quiet operation quiet := rfl
  opens operation booked opens := by
    cases opens with
    | announces event =>
        simp [announcements, Operation.announces, List.count_singleton,
          List.countP_singleton]
    | ticks => simp [announcements, Operation.announces]
    | plain _ quiet =>
        simp [announcements, operation.announces_of_quiet quiet kind]
  moves before after booked moves := by
    have still := before.underway_of_moves after booked moves
    simp [announcements, still.events]
  ends operation reply booked ends := by
    cases ends <;> simp [announcements]

theorem timings_sound (path : DeliveryPath) : (timings path).Sound where
  debit_add first second := by simp [timings, Page.add]
  credit_add first second := by simp [timings, Page.add]
  quiet operation quiet := rfl
  opens operation booked opens := by
    cases opens <;> simp [timings]
  moves before after booked moves := by
    have still := before.underway_of_moves after booked moves
    simp [timings, still.latencies]
  ends operation reply booked ends := by
    cases ends with
    | announced event report =>
        by_cases here : (Delivery.ofEvent event).path = path <;>
          simp [timings, DeliveryPath.report?, Operation.path?, Reply.report?,
            DeliveryPath.label_eq_iff, here]
    | skipped => simp [timings, DeliveryPath.report?, Reply.report?]
    | failed message => simp [timings, DeliveryPath.report?, Reply.report?]
    | delivered alarms report =>
        by_cases here : DeliveryPath.snapshot = path <;>
          simp [timings, DeliveryPath.report?, Operation.path?, Reply.report?,
            DeliveryPath.label_eq_iff, here]
    | plain _ _ _ _ unreported => simp [timings, DeliveryPath.report?, unreported]

theorem dispatches_sound (path : DeliveryPath) (incremental : path ≠ .snapshot) :
    (dispatches path).Sound where
  debit_add first second := by
    simp [dispatches, Page.add, List.count_append, List.sum_map_add]
  credit_add first second := by
    simp [dispatches, Page.add, List.count_append]
  quiet operation quiet := by
    simp [dispatches, operation.path?_of_quiet quiet]
  opens operation booked opens := by
    cases opens with
    | announces event =>
        have counted := DeliveryPath.count_causes event path incremental
        simpa [dispatches, Operation.path?, List.count_singleton] using counted
    | ticks => simp [dispatches, Operation.path?, Ne.symm incremental]
    | plain _ quiet => simp [dispatches, operation.path?_of_quiet quiet]
  moves before after booked moves := by
    have still := before.underway_of_moves after booked moves
    simp [dispatches, still.path, still.events, still.latencies]
  ends operation reply booked ends := by
    cases ends with
    | announced event report =>
        simp [dispatches, Operation.path?, List.count_singleton,
          DeliveryPath.label_eq_iff]
    | skipped => simp [dispatches, Operation.path?, Ne.symm incremental]
    | failed message => simp [dispatches, Operation.path?, Ne.symm incremental]
    | delivered alarms report =>
        simp [dispatches, Operation.path?, DeliveryPath.label_eq_iff,
          Ne.symm incremental]
    | plain _ _ quiet _ _ => simp [dispatches, operation.path?_of_quiet quiet]

theorem ticks_sound : ticks.Sound where
  debit_add first second := by simp [ticks, Page.add]
  credit_add first second := by
    simp only [ticks, Page.add, List.count_append]
    omega
  quiet operation quiet := by
    simp [ticks, operation.isTick_of_quiet quiet]
  opens operation booked opens := by
    cases opens with
    | announces event => simp [ticks, Operation.isTick]
    | ticks => simp [ticks, Operation.isTick]
    | plain _ quiet => simp [ticks, operation.isTick_of_quiet quiet]
  moves before after booked moves := by
    have still := before.underway_of_moves after booked moves
    simp [ticks, still.tick, still.outcomes]
  ends operation reply booked ends := by
    cases ends with
    | announced event report => simp [ticks, Operation.isTick]
    | skipped => rfl
    | failed message => rfl
    | delivered alarms report => rfl
    | plain _ _ quiet _ _ => simp [ticks, operation.isTick_of_quiet quiet]

theorem snapshots_sound : snapshots.Sound where
  debit_add first second := by simp [snapshots, Page.add]
  credit_add first second := by simp [snapshots, Page.add]
  quiet operation quiet := rfl
  opens operation booked opens := by
    cases opens <;> simp [snapshots]
  moves before after booked moves := by
    have still := before.underway_of_moves after booked moves
    simp [snapshots, still.outcomes, still.latencies]
  ends operation reply booked ends := by
    cases ends with
    | announced event report => cases event <;> rfl
    | skipped => rfl
    | failed message => rfl
    | delivered alarms report => rfl
    | plain _ _ _ _ _ => rfl

theorem deliveries_sound : deliveries.Sound where
  debit_add first second := by simp [deliveries, Page.add]
  credit_add first second := by simp [deliveries, deliveredSizes, Page.add]
  quiet operation quiet := rfl
  opens operation booked opens := by
    cases opens <;> simp [deliveries, deliveredSizes]
  moves before after booked moves := by
    have still := before.underway_of_moves after booked moves
    simp [deliveries, deliveredSizes, still.outcomes]
  ends operation reply booked ends := by
    cases ends with
    | announced event report => cases event <;> rfl
    | skipped => rfl
    | failed message => rfl
    | delivered alarms report => rfl
    | plain _ _ _ untold _ => simp [deliveries, deliveredSizes, untold]

theorem sizes_sound (size : Nat) : (sizes size).Sound where
  debit_add first second := by simp [sizes, Page.add]
  credit_add first second := by simp [sizes, deliveredSizes, Page.add]
  quiet operation quiet := by
    simp [sizes, operation.fanOut?_of_quiet quiet]
  opens operation booked opens := by
    cases opens with
    | announces event =>
        cases event <;>
          simp [sizes, deliveredSizes, Operation.fanOut?, Delivery.ofEvent]
    | ticks => rfl
    | plain _ quiet =>
        simp [sizes, deliveredSizes, operation.fanOut?_of_quiet quiet]
  moves before after booked moves := by
    cases moves with
    | scans => rfl
    | fetches alarms =>
        simp [sizes, deliveredSizes, Operation.fanOut?, List.count_singleton]
    | announces event before after _ walks =>
        cases event <;> cases walks <;>
          simp [sizes, deliveredSizes, Operation.fanOut?, Delivery.ofEvent]
    | delivers alarms before after _ walks =>
        cases walks <;> simp [sizes, deliveredSizes, Operation.fanOut?]
  ends operation reply booked ends := by
    cases ends with
    | announced event report => cases event <;> rfl
    | skipped => rfl
    | failed message => rfl
    | delivered alarms report =>
        simp [sizes, deliveredSizes, Operation.fanOut?, Reply.outcome?,
          TickOutcome.alarms?, List.count_singleton]
    | plain _ _ quiet untold _ =>
        simp [sizes, deliveredSizes, operation.fanOut?_of_quiet quiet, untold]

section

variable (path : DeliveryPath) (delivery : Delivery) (cause : String)
  (before after : FanOut) (booked : List Signal)
  (walks : FanOut.Walks delivery cause before after booked)

include walks

theorem walks_failures :
    booked.count (.metric (.listenerFailure path.label)) +
        (if delivery.path = path then failedSoFar before else 0) =
      if delivery.path = path then failedSoFar after else 0 := by
  cases walks with
  | begins listeners => simp [failedSoFar, DispatchReport.empty]
  | accepts listener rest report counted kept => simp [failedSoFar, kept]
  | faults listener rest report counted error grown =>
      by_cases here : delivery.path = path
      · simp [failedSoFar, here, grown, Nat.add_comm]
      · simp [here, DeliveryPath.label_eq_iff]

theorem walks_records
    (known : cause ∈ path.causes ↔ delivery.path = path) :
    booked.count (.metric (.listenerFailure path.label)) =
      booked.countP (Signal.isFailureOn path) := by
  cases walks with
  | begins listeners => rfl
  | accepts listener rest report counted kept => rfl
  | faults listener rest report counted error grown =>
      by_cases here : delivery.path = path
      · simp [Signal.isFailureOn, LogRecord.isFailureOn_listenerFailed, known, here]
      · simp [Signal.isFailureOn, LogRecord.isFailureOn_listenerFailed, known, here,
          DeliveryPath.label_eq_iff]

end

theorem failures_sound (path : DeliveryPath) : (failures path).Sound where
  debit_add first second := by simp [failures, Page.add]
  credit_add first second := by simp [failures, Page.add]
  quiet operation quiet := by
    simp [failures, operation.fanOut?_of_quiet quiet]
  opens operation booked opens := by
    cases opens with
    | announces event => simp [failures, Operation.fanOut?, failedSoFar]
    | ticks => rfl
    | plain _ quiet => simp [failures, operation.fanOut?_of_quiet quiet]
  moves before after booked moves := by
    cases moves with
    | scans => rfl
    | fetches alarms => simp [failures, Operation.fanOut?, failedSoFar]
    | announces event before after _ walks =>
        have walked := walks_failures path _ _ before after booked walks
        simpa [failures, Operation.fanOut?] using walked
    | delivers alarms before after _ walks =>
        have walked := walks_failures path _ _ before after booked walks
        simpa [failures, Operation.fanOut?] using walked
  ends operation reply booked ends := by
    cases ends with
    | announced event report =>
        by_cases here : (Delivery.ofEvent event).path = path <;>
          simp [failures, Operation.fanOut?, DeliveryPath.report?,
            Operation.path?, Reply.report?, failedSoFar, here]
    | skipped =>
        simp [failures, Operation.fanOut?, DeliveryPath.report?, Reply.report?]
    | failed message =>
        simp [failures, Operation.fanOut?, DeliveryPath.report?, Reply.report?]
    | delivered alarms report =>
        by_cases here : DeliveryPath.snapshot = path <;>
          simp [failures, Operation.fanOut?, DeliveryPath.report?,
            Operation.path?, Reply.report?, failedSoFar, Delivery.path, here]
    | plain _ _ quiet _ unreported =>
        simp [failures, DeliveryPath.report?, unreported,
          operation.fanOut?_of_quiet quiet]

theorem records_sound (path : DeliveryPath) : (records path).Sound where
  debit_add first second := by simp [records, Page.add]
  credit_add first second := by simp [records, Page.add]
  quiet operation quiet := rfl
  opens operation booked opens := by
    cases opens <;> simp [records, Signal.isFailureOn]
  moves before after booked moves := by
    cases moves with
    | scans => rfl
    | fetches alarms => simp [records, Signal.isFailureOn]
    | announces event before after _ walks =>
        exact walks_records path _ _ before after booked walks
          (DeliveryPath.mem_causes_event event path)
    | delivers alarms before after _ walks =>
        exact walks_records path _ _ before after booked walks
          (DeliveryPath.mem_causes_snapshot path)
  ends operation reply booked ends := by
    cases ends <;> simp [records, Signal.isFailureOn]

end Account
end AlarmRelay
