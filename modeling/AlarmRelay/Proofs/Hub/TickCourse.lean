import AlarmRelay.Proofs.Hub.Settled
import AlarmRelay.Proofs.Hub.TickStep

/-!
# The course of a tick

What a tick got from the lock and from the source agrees with the phase that it is
in, whatever happens around it: `Looked` is that relation, and every event keeps it.
With what the journal tells of its calls it makes up the record of the tick.
-/

set_option autoImplicit false

namespace AlarmRelay.Hub

/-- The listeners over which an operation holds the shared side. -/
def grant (hub : Hub) (id : OperationId) : List (List Listener) :=
  if id ∈ hub.registry.lock.readers then [hub.registry.listeners] else []

/-- What a tick got from the lock and from the source until some phase: the lists
of listeners at its grants, the number of readings, and their ends. -/
inductive Looked (granted : List (List Listener)) :
    TickPhase → List (List Listener) → Nat → List ScanOutcome → Prop where
  | checks : Looked granted .checking granted 0 []
  | reads (first : List Listener) (somebody : first ≠ []) :
      Looked granted .scanning [first] 1 []
  | delivers (first : List Listener) (alarms : List Alarm) (fanOut : FanOut)
      (somebody : first ≠ []) :
      Looked granted (.delivering alarms fanOut) (first :: granted) 1
        [.alarms alarms]

/-! ## One event -/

section

variable (hub : Hub) (now : Instant) (event : HubEvent) (step : Progress)
  (id : OperationId) (lined : hub.Lined) (next : step.hub.Lined)
  (reacted : hub.react now event = some step)

theorem grant_unread (unread : id ∉ hub.registry.lock.readers) :
    hub.grant id = [] :=
  if_neg unread

include next

theorem admissions_unread (unread : id ∉ step.hub.registry.lock.readers) :
    Mark.admissions id (hub.marks event step) = [] := by
  rw [hub.marks_granted event step next id]
  exact if_neg fun granted => unread granted.1

theorem begun_still (still : step.hub.isScanning id = true →
      hub.isScanning id = true) :
    ReadMark.begun id (hub.readMarks event step) = 0 := by
  rw [hub.readMarks_begun event step id next.consistent]
  refine if_neg ?_
  rintro ⟨after, before⟩
  rw [still after] at before
  cases before

/-- Without an admission nothing is granted, and with one it is. -/
theorem grant_react (consistent : hub.Consistent)
    (reacted : hub.react now event = some step)
    (kept : id ∈ hub.registry.lock.readers →
      id ∈ step.hub.registry.lock.readers) :
    step.hub.grant id =
      hub.grant id ++ Mark.admissions id (hub.marks event step) := by
  rw [hub.marks_granted event step next id, grant, grant]
  by_cases before : id ∈ hub.registry.lock.readers
  · have same := hub.react_listeners now event step id consistent before reacted
    simp [before, kept before, same]
  · simp [before]

include lined reacted

/-- What a tick got in an event that is no answer of the source, and in which it
stays in flight without going to read the source. -/
theorem quiet_react (later : Operation)
    (after : step.hub.operation? id = some later)
    (holds : later ≠ .tick .scanning)
    (other : ∀ scan, event ≠ .answerScan id scan) :
    step.hub.grant id =
        hub.grant id ++ Mark.admissions id (hub.marks event step) ∧
      ReadMark.begun id (hub.readMarks event step) = 0 ∧
      ReadMark.answers id (hub.readMarks event step) = [] := by
  have reading : step.hub.isScanning id = true → hub.isScanning id = true := by
    intro scanning
    rw [isScanning_iff, after] at scanning
    exact absurd (Option.some.inj scanning) holds
  refine ⟨?_, hub.begun_still event step id next reading, ?_⟩
  · apply hub.grant_react now event step id next lined.consistent reacted
    intro reads
    rcases hub.readers_turn event step id
      (hub.react_turn now event step reacted) reads with kept | gone | scans
    · exact kept
    · rw [after] at gone
      cases gone
    · rw [after] at scans
      exact absurd (Option.some.inj scans) holds
  · rw [readMarks_answers, readEnds_unanswered event id other]

/-- A tick that the source answered waits for the lock again. -/
theorem looked_fetched (alarms : List Alarm) (admissions : List (List Listener))
    (reads : Nat) (answers : List ScanOutcome)
    (answered : event = .answerScan id (.alarms alarms))
    (found : hub.operation? id = some (.tick .scanning))
    (looked : Looked (hub.grant id) .scanning admissions reads answers) :
    Looked (step.hub.grant id) (.delivering alarms .awaitingLock)
      (admissions ++ Mark.admissions id (hub.marks event step))
      (reads + ReadMark.begun id (hub.readMarks event step))
      (answers ++ ReadMark.answers id (hub.readMarks event step)) := by
  have unheld := hub.unheld_of_plain lined id _ found rfl
  have granted := hub.grant_react now event step id next lined.consistent reacted
    fun held => absurd held unheld
  have still := hub.begun_still event step id next
    fun _ => (hub.isScanning_iff id).mpr found
  rw [hub.grant_unread id unheld, List.nil_append] at granted
  rw [still, ← granted, readMarks_answers, answered, readEnds_scan]
  cases looked with
  | reads first somebody => exact .delivers first alarms .awaitingLock somebody

/-- A tick that found somebody goes to read the source. -/
theorem looked_scans (admissions : List (List Listener)) (reads : Nat)
    (answers : List ScanOutcome)
    (other : ∀ scan, event ≠ .answerScan id scan)
    (found : hub.operation? id = some (.tick .checking))
    (after : step.hub.operation? id = some (.tick .scanning))
    (somebody : hub.registry.listeners ≠ [])
    (looked : Looked (hub.grant id) .checking admissions reads answers) :
    Looked (step.hub.grant id) .scanning
      (admissions ++ Mark.admissions id (hub.marks event step))
      (reads + ReadMark.begun id (hub.readMarks event step))
      (answers ++ ReadMark.answers id (hub.readMarks event step)) := by
  have held := hub.scans_held now event step id reacted lined found after
  have unread := step.hub.unheld_of_plain next id _ after rfl
  have begins : ReadMark.begun id (hub.readMarks event step) = 1 := by
    rw [hub.readMarks_begun event step id next.consistent]
    refine if_pos ⟨(step.hub.isScanning_iff id).mpr after, ?_⟩
    rw [← Bool.not_eq_true, isScanning_iff, found]
    simp
  rw [hub.admissions_unread event step id next unread, begins, readMarks_answers,
    readEnds_unanswered event id other]
  cases looked with
  | checks =>
      have given : hub.grant id = [hub.registry.listeners] := if_pos held
      rw [given]
      exact .reads _ somebody

/-- A tick that stays where it is. -/
theorem looked_stays (phase : TickPhase) (admissions : List (List Listener))
    (reads : Nat) (answers : List ScanOutcome)
    (other : ∀ scan, event ≠ .answerScan id scan)
    (found : hub.operation? id = some (.tick phase))
    (after : step.hub.operation? id = some (.tick phase))
    (looked : Looked (hub.grant id) phase admissions reads answers) :
    Looked (step.hub.grant id) phase
      (admissions ++ Mark.admissions id (hub.marks event step))
      (reads + ReadMark.begun id (hub.readMarks event step))
      (answers ++ ReadMark.answers id (hub.readMarks event step)) := by
  have quiet := hub.quiet_react now event step id lined next reacted _ after
  cases looked with
  | checks =>
      obtain ⟨granted, begun, unanswered⟩ := quiet (by simp) other
      rw [← granted, begun, unanswered]
      exact .checks
  | reads first somebody =>
      have unread := step.hub.unheld_of_plain next id _ after rfl
      rw [hub.admissions_unread event step id next unread,
        hub.begun_still event step id next
          (fun _ => (hub.isScanning_iff id).mpr found),
        readMarks_answers, readEnds_unanswered event id other]
      exact .reads first somebody
  | delivers first alarms fanOut somebody =>
      obtain ⟨granted, begun, unanswered⟩ := quiet (by simp) other
      rw [List.cons_append, ← granted, begun, unanswered]
      exact .delivers first alarms fanOut somebody

/-- A walk goes on with the scan that it hands out. -/
theorem looked_walks (phase later : TickPhase)
    (admissions : List (List Listener)) (reads : Nat)
    (answers : List ScanOutcome) (delivery : Delivery) (first last : FanOut)
    (other : ∀ scan, event ≠ .answerScan id scan)
    (carried : (Operation.tick phase).fanOut? = some (delivery, first))
    (carries : (Operation.tick later).fanOut? = some (delivery, last))
    (after : step.hub.operation? id = some (.tick later))
    (looked : Looked (hub.grant id) phase admissions reads answers) :
    Looked (step.hub.grant id) later
      (admissions ++ Mark.admissions id (hub.marks event step))
      (reads + ReadMark.begun id (hub.readMarks event step))
      (answers ++ ReadMark.answers id (hub.readMarks event step)) := by
  obtain ⟨cause, wrong⟩ | ⟨alarms, rfl, same⟩ :=
    Operation.fanOut?_cases _ delivery first carried
  · cases wrong
  · cases same
    obtain ⟨cause, wrong⟩ | ⟨others, scan, same⟩ :=
      Operation.fanOut?_cases _ _ last carries
    · cases wrong
    · cases scan
      cases same
      obtain ⟨granted, begun, unanswered⟩ :=
        hub.quiet_react now event step id lined next reacted _ after (by simp) other
      cases looked with
      | delivers front _ _ somebody =>
          rw [List.cons_append, ← granted, begun, unanswered]
          exact .delivers front alarms last somebody

/-- Every event keeps what a tick got in step with its phase. -/
theorem looked_react (phase later : TickPhase)
    (admissions : List (List Listener)) (reads : Nat)
    (answers : List ScanOutcome)
    (found : hub.operation? id = some (.tick phase))
    (after : step.hub.operation? id = some (.tick later))
    (looked : Looked (hub.grant id) phase admissions reads answers) :
    Looked (step.hub.grant id) later
      (admissions ++ Mark.admissions id (hub.marks event step))
      (reads + ReadMark.begun id (hub.readMarks event step))
      (answers ++ ReadMark.answers id (hub.readMarks event step)) := by
  by_cases scanned : ∃ scan, event = .answerScan id scan
  · obtain ⟨scan, rfl⟩ := scanned
    obtain ⟨reading, ⟨alarms, rfl, _, fetched⟩ | ⟨message, _, _, gone⟩⟩ :=
      hub.answerScan_react now id scan step reacted
    · rw [reading] at found
      rw [fetched] at after
      cases found
      cases after
      exact hub.looked_fetched now _ step id lined next reacted alarms _ _ _ rfl
        reading looked
    · rw [gone] at after
      cases after
  · have other : ∀ scan, event ≠ .answerScan id scan :=
      fun scan same => scanned ⟨scan, same⟩
    cases hub.react_fate now event step id lined.consistent reacted with
    | stays same began ended =>
        have still := after
        rw [same, found] at still
        cases still
        exact hub.looked_stays now event step id lined next reacted phase _ _ _ other
          found after looked
    | begins operation named calm before present began ended =>
        rw [found] at before
        cases before
    | moves old moved heard motion before present began ended outcomes =>
        rw [found] at before
        rw [after] at present
        cases before
        cases present
        cases motion with
        | scans somebody =>
            exact hub.looked_scans now event step id lined next reacted _ _ _
              other found after somebody looked
        | fetches alarms =>
            exact absurd (hub.scanned_react now event step id reacted alarms _
              found after) (other _)
        | walks _ _ delivery held waits walking =>
            exact hub.looked_walks now event step id lined next reacted phase later
              _ _ _ delivery _ _ other waits walking after looked
        | hears _ _ delivery listener rest report outcome called calls =>
            exact hub.looked_walks now event step id lined next reacted phase later
              _ _ _ delivery _ _ other called calls after looked
    | answers old registry reply answer before gone listeners replied began
        ended =>
        rw [after] at gone
        cases gone
    | drops old before gone silent began ended =>
        rw [after] at gone
        cases gone

end

end AlarmRelay.Hub
