import AlarmRelay.Alarm.Calls
import Mathlib.Data.List.Basic

/-!
# The last writer of every group wins

A field of an alarm changes only in calls of its group (`AlarmGroup.Owns`), so what
calls leave of it follows from the calls of that group alone.  A field that every
call of its group replaces holds what the latest of them wrote, and the counter
counts them.  Calls of different groups can change places.
-/

set_option autoImplicit false

namespace AlarmRelay

attribute [ext] Alarm

/-- The occurrence count stops at its largest value instead of wrapping around. -/
theorem Alarm.toNat_nextCounter (counter : UInt32) :
    (Alarm.nextCounter counter).toNat =
      min (counter.toNat + 1) (UInt32.size - 1) := by
  have bound := counter.toNat_lt
  unfold Alarm.nextCounter
  split
  case isTrue room =>
    rw [UInt32.toNat_add]
    simp only [UInt32.size, UInt32.reduceToNat] at *
    omega
  case isFalse full =>
    simp only [UInt32.size] at *
    omega

namespace AlarmGroup

/-- A field that only the calls of a group write. -/
def Owns {α : Type} (group : AlarmGroup) (field : Alarm → α)
    (write : Timestamp → AlarmChange → α → α) : Prop :=
  ∀ now change alarm, field (change.apply now alarm) =
    if change.group = group then write now change (field alarm)
    else field alarm

section

variable {α : Type} {group : AlarmGroup} {field : Alarm → α}
  {write : Timestamp → AlarmChange → α → α}

theorem Owns.apart (owns : group.Owns field write) (now : Timestamp)
    (change : AlarmChange) (alarm : Alarm) (other : change.group ≠ group) :
    field (change.apply now alarm) = field alarm := by
  rw [owns, if_neg other]

/-- What calls leave of a field is what those of its group make of it. -/
theorem Owns.applyAll (owns : group.Owns field write) (alarm : Alarm)
    (calls : AlarmCalls) :
    field (AlarmChange.applyAll alarm calls).1 =
      (calls.ofGroup group).foldl
        (fun value call => write call.1 call.2 value) (field alarm) := by
  induction calls generalizing alarm with
  | nil => rfl
  | cons call rest ih =>
      obtain ⟨now, change⟩ := call
      rw [AlarmChange.applyAll, ih, owns]
      by_cases own : change.group = group
      · simp [AlarmCalls.ofGroup, own]
      · simp [AlarmCalls.ofGroup, own]

/-- Two calls of different groups leave the same of a field in either order. -/
theorem Owns.swap (owns : group.Owns field write)
    (first second : Timestamp × AlarmChange)
    (different : first.2.group ≠ second.2.group) (alarm : Alarm) :
    field (second.2.apply second.1 (first.2.apply first.1 alarm)) =
      field (first.2.apply first.1 (second.2.apply second.1 alarm)) := by
  by_cases own : first.2.group = group
  · have other : second.2.group ≠ group :=
      fun same => different (own.trans same.symm)
    rw [owns.apart _ _ _ other, owns, owns, owns.apart _ _ _ other]
  · rw [owns, owns.apart _ _ _ own, owns.apart _ _ _ own, owns]

end

/-! ## The fields and their groups -/

/-- A field that no call writes. -/
theorem owns_fixed {α : Type} (field : Alarm → α)
    (fixed : ∀ now change alarm,
      field (AlarmChange.apply now alarm change) = field alarm) :
    description.Owns field fun _ _ value => value := by
  intro now change alarm
  rw [fixed, ite_self]

theorem owns_id : description.Owns Alarm.id fun _ _ value => value :=
  owns_fixed _ fun _ change _ => by cases change <;> rfl

theorem owns_reductionKey :
    description.Owns Alarm.reductionKey fun _ _ value => value :=
  owns_fixed _ fun _ change _ => by cases change <;> rfl

theorem owns_uei : description.Owns Alarm.uei fun _ _ value => value :=
  owns_fixed _ fun _ change _ => by cases change <;> rfl

theorem owns_firstEventTime :
    description.Owns Alarm.firstEventTime fun _ _ value => value :=
  owns_fixed _ fun _ change _ => by cases change <;> rfl

theorem owns_counter :
    occurrence.Owns Alarm.counter fun _ _ count => Alarm.nextCounter count := by
  intro now change alarm
  cases change <;> rfl

theorem owns_lastEventTime :
    occurrence.Owns Alarm.lastEventTime fun now _ _ => now := by
  intro now change alarm
  cases change <;> rfl

theorem owns_description :
    description.Owns Alarm.description fun _ change _ =>
      match change with
      | .describe text => some text
      | _ => none := by
  intro now change alarm
  cases change <;> rfl

theorem owns_acknowledgement :
    acknowledgement.Owns Alarm.acknowledgement fun now change _ =>
      match change with
      | .acknowledge user => (some user, some now)
      | _ => (none, none) := by
  intro now change alarm
  cases change <;> rfl

theorem owns_severity :
    severity.Owns Alarm.severity fun _ change _ =>
      match change with
      | .setSeverity level => level
      | _ => .cleared := by
  intro now change alarm
  cases change <;> rfl

theorem owns_stickyMemo :
    stickyMemo.Owns Alarm.stickyMemo fun _ change _ =>
      match change with
      | .setStickyMemo memo => some memo
      | _ => none := by
  intro now change alarm
  cases change <;> rfl

theorem owns_reductionKeyMemo :
    reductionKeyMemo.Owns Alarm.reductionKeyMemo fun _ change _ =>
      match change with
      | .setReductionKeyMemo memo => some memo
      | _ => none := by
  intro now change alarm
  cases change <;> rfl

end AlarmGroup

/-! ## Runs of calls -/

namespace AlarmCalls

open AlarmChange

theorem latest?_mem (calls : AlarmCalls) (group : AlarmGroup)
    (call : Timestamp × AlarmChange)
    (latest : calls.latest? group = some call) :
    call ∈ calls ∧ call.2.group = group := by
  have member := List.mem_of_getLast? latest
  simpa [ofGroup] using member

/-- A field that every call of its group replaces holds what the latest one wrote. -/
theorem latest_writes {α : Type} {group : AlarmGroup} {field : Alarm → α}
    {write : Timestamp → AlarmChange → α}
    (owns : group.Owns field fun now change _ => write now change)
    (alarm : Alarm) (calls : AlarmCalls) :
    field (applyAll alarm calls).1 =
      ((calls.latest? group).map fun call => write call.1 call.2).getD
        (field alarm) := by
  have replaced : ∀ (own : AlarmCalls) (value : α),
      own.foldl (fun _ call => write call.1 call.2) value =
        (own.getLast?.map fun call => write call.1 call.2).getD value := by
    intro own
    induction own with
    | nil => exact fun _ => rfl
    | cons call rest ih =>
        intro value
        rw [List.foldl_cons, ih, List.getLast?_cons]
        cases rest.getLast? <;> rfl
  rw [owns.applyAll, replaced]
  rfl

/-- The counter counts the calls of its group up to its largest value. -/
theorem counter_applyAll (alarm : Alarm) (calls : AlarmCalls) :
    (applyAll alarm calls).1.counter.toNat =
      min (alarm.counter.toNat + (calls.ofGroup .occurrence).length)
        (UInt32.size - 1) := by
  have counted : ∀ (own : AlarmCalls) (count : UInt32),
      (own.foldl (fun count _ => Alarm.nextCounter count) count).toNat =
        min (count.toNat + own.length) (UInt32.size - 1) := by
    intro own
    induction own with
    | nil =>
        intro count
        have bound := count.toNat_lt
        simp only [List.foldl_nil, List.length_nil, UInt32.size] at *
        omega
    | cons call rest ih =>
        intro count
        rw [List.foldl_cons, ih, Alarm.toNat_nextCounter, List.length_cons]
        omega
  rw [AlarmGroup.owns_counter.applyAll, counted]

theorem applyAll_append (alarm : Alarm) (past later : AlarmCalls) :
    applyAll alarm (past ++ later) =
      ((applyAll (applyAll alarm past).1 later).1,
        (applyAll alarm past).2 ++
          (applyAll (applyAll alarm past).1 later).2) := by
  induction past generalizing alarm with
  | nil => rfl
  | cons call rest ih =>
      obtain ⟨now, change⟩ := call
      simp only [List.cons_append, applyAll, ih]

theorem answers_length (alarm : Alarm) (calls : AlarmCalls) :
    (applyAll alarm calls).2.length = calls.length := by
  induction calls generalizing alarm with
  | nil => rfl
  | cons call rest ih => simp only [applyAll, List.length_cons, ih]

/-- What one call of several answers is what it finds. -/
theorem answers_getElem? (alarm : Alarm) (past later : AlarmCalls)
    (now : Timestamp) (change : AlarmChange) :
    (applyAll alarm (past ++ (now, change) :: later)).2[past.length]? =
      some (change.replaced (applyAll alarm past).1) := by
  have length := answers_length alarm past
  rw [applyAll_append, List.getElem?_append_right (by omega), length,
    Nat.sub_self]
  rfl

/-- A call does not change what a call of another group answers. -/
theorem replaced_apart (now : Timestamp) (other change : AlarmChange)
    (alarm : Alarm) (different : other.group ≠ change.group) :
    change.replaced (other.apply now alarm) = change.replaced alarm := by
  have pair := fun own : other.group ≠ .acknowledgement =>
    AlarmGroup.owns_acknowledgement.apart now other alarm own
  cases change with
  | describe text => rfl
  | reduce => rfl
  | acknowledge user =>
      obtain ⟨users, times⟩ := Prod.mk.inj (pair different)
      simp only [replaced, users, times]
  | unacknowledge =>
      obtain ⟨users, times⟩ := Prod.mk.inj (pair different)
      simp only [replaced, users, times]
  | setSeverity severity =>
      exact congrArg Replaced.severity
        (AlarmGroup.owns_severity.apart now other alarm different)
  | clear =>
      exact congrArg Replaced.severity
        (AlarmGroup.owns_severity.apart now other alarm different)
  | setStickyMemo memo =>
      exact congrArg Replaced.memo
        (AlarmGroup.owns_stickyMemo.apart now other alarm different)
  | clearStickyMemo =>
      exact congrArg Replaced.memo
        (AlarmGroup.owns_stickyMemo.apart now other alarm different)
  | setReductionKeyMemo memo =>
      exact congrArg Replaced.memo
        (AlarmGroup.owns_reductionKeyMemo.apart now other alarm different)
  | clearReductionKeyMemo =>
      exact congrArg Replaced.memo
        (AlarmGroup.owns_reductionKeyMemo.apart now other alarm different)

/-- Two calls of different groups leave the same alarm in either order. -/
theorem apply_swap (first second : Timestamp × AlarmChange)
    (different : first.2.group ≠ second.2.group) (alarm : Alarm) :
    second.2.apply second.1 (first.2.apply first.1 alarm) =
      first.2.apply first.1 (second.2.apply second.1 alarm) := by
  have pair := AlarmGroup.owns_acknowledgement.swap first second different alarm
  obtain ⟨users, times⟩ := Prod.mk.inj pair
  ext1
  case id => exact AlarmGroup.owns_id.swap first second different alarm
  case reductionKey =>
    exact AlarmGroup.owns_reductionKey.swap first second different alarm
  case uei => exact AlarmGroup.owns_uei.swap first second different alarm
  case severity =>
    exact AlarmGroup.owns_severity.swap first second different alarm
  case description =>
    exact AlarmGroup.owns_description.swap first second different alarm
  case counter => exact AlarmGroup.owns_counter.swap first second different alarm
  case firstEventTime =>
    exact AlarmGroup.owns_firstEventTime.swap first second different alarm
  case lastEventTime =>
    exact AlarmGroup.owns_lastEventTime.swap first second different alarm
  case ackUser => exact users
  case ackTime => exact times
  case stickyMemo =>
    exact AlarmGroup.owns_stickyMemo.swap first second different alarm
  case reductionKeyMemo =>
    exact AlarmGroup.owns_reductionKeyMemo.swap first second different alarm

/-! ## Alarms since they were raised -/

section

variable (birth : Timestamp) (id : AlarmId) (uei reductionKey : String)
  (level : Severity) (calls : AlarmCalls)

theorem raised_description :
    (applyAll (.raise birth id uei reductionKey level) calls).1.description =
      calls.description? := by
  rw [latest_writes AlarmGroup.owns_description, description?]
  rcases calls.latest? .description with _ | ⟨time, change⟩
  · rfl
  · cases change <;> rfl

theorem raised_acknowledgement :
    (applyAll (.raise birth id uei reductionKey level) calls).1.acknowledgement =
      (calls.acknowledgement?.map Prod.fst,
        calls.acknowledgement?.map Prod.snd) := by
  rw [latest_writes AlarmGroup.owns_acknowledgement, acknowledgement?]
  rcases calls.latest? .acknowledgement with _ | ⟨time, change⟩
  · rfl
  · cases change <;> rfl

theorem raised_severity :
    (applyAll (.raise birth id uei reductionKey level) calls).1.severity =
      calls.severity level := by
  rw [latest_writes AlarmGroup.owns_severity, AlarmCalls.severity]
  cases latest : calls.latest? .severity with
  | none => rfl
  | some call =>
      obtain ⟨time, change⟩ := call
      have own := (calls.latest?_mem _ _ latest).2
      cases change with
      | setSeverity severity => rfl
      | clear => rfl
      | _ => cases own

theorem raised_stickyMemo :
    (applyAll (.raise birth id uei reductionKey level) calls).1.stickyMemo =
      calls.stickyMemo? := by
  rw [latest_writes AlarmGroup.owns_stickyMemo, stickyMemo?]
  rcases calls.latest? .stickyMemo with _ | ⟨time, change⟩
  · rfl
  · cases change <;> rfl

theorem raised_reductionKeyMemo :
    (applyAll (.raise birth id uei reductionKey level)
      calls).1.reductionKeyMemo = calls.reductionKeyMemo? := by
  rw [latest_writes AlarmGroup.owns_reductionKeyMemo, reductionKeyMemo?]
  rcases calls.latest? .reductionKeyMemo with _ | ⟨time, change⟩
  · rfl
  · cases change <;> rfl

theorem raised_counter :
    (applyAll (.raise birth id uei reductionKey level)
      calls).1.counter.toNat =
        min (1 + calls.countP fun call => call.2 == .reduce) (UInt32.size - 1) := by
  have reduces : (calls.ofGroup .occurrence).length =
      calls.countP fun call => call.2 == .reduce := by
    rw [ofGroup, List.countP_eq_length_filter]
    congr 2
    funext call
    obtain ⟨time, change⟩ := call
    cases change <;> rfl
  rw [counter_applyAll, reduces]
  rfl

theorem raised_lastEventTime :
    (applyAll (.raise birth id uei reductionKey level)
      calls).1.lastEventTime = calls.lastOccurrence birth := by
  rw [latest_writes AlarmGroup.owns_lastEventTime]
  rfl

/-- An alarm occurred last no earlier than it was raised. -/
theorem lastOccurrence_timely (timely : calls.IsTimely birth) :
    birth ≤ calls.lastOccurrence birth := by
  rw [lastOccurrence]
  cases latest : calls.latest? .occurrence with
  | none => exact UInt64.le_refl birth
  | some call =>
      have member := (calls.latest?_mem _ _ latest).1
      exact (List.pairwise_cons.mp timely).1 call.1 (List.mem_map_of_mem member)

theorem raised_acknowledged :
    (applyAll (.raise birth id uei reductionKey level)
      calls).1.isAcknowledged = true ↔ ∃ time user,
        calls.latest? .acknowledgement = some (time, .acknowledge user) := by
  have users := (Prod.mk.inj
    (raised_acknowledgement birth id uei reductionKey level calls)).1
  rw [Alarm.isAcknowledged, users, acknowledgement?]
  cases latest : calls.latest? .acknowledgement with
  | none => simp
  | some call =>
      obtain ⟨time, change⟩ := call
      cases change <;> simp

/-- A call answers what the calls before it left of its group. -/
theorem raised_replaced (change : AlarmChange) :
    change.replaced
      (applyAll (.raise birth id uei reductionKey level) calls).1 =
        calls.answer level change := by
  have pair := raised_acknowledgement birth id uei reductionKey level calls
  obtain ⟨users, times⟩ := Prod.mk.inj pair
  cases change with
  | describe text => rfl
  | reduce => rfl
  | acknowledge user => rw [replaced, users, times, answer]
  | unacknowledge => rw [replaced, users, times, answer]
  | setSeverity severity => rw [replaced, raised_severity, answer]
  | clear => rw [replaced, raised_severity, answer]
  | setStickyMemo memo => rw [replaced, raised_stickyMemo, answer]
  | clearStickyMemo => rw [replaced, raised_stickyMemo, answer]
  | setReductionKeyMemo memo => rw [replaced, raised_reductionKeyMemo, answer]
  | clearReductionKeyMemo => rw [replaced, raised_reductionKeyMemo, answer]

end

/-- Calls of different groups that change places leave the same alarm, and each of
them answers the same. -/
theorem applyAll_swap (alarm : Alarm) (past later : AlarmCalls)
    (one other : Timestamp × AlarmChange)
    (different : one.2.group ≠ other.2.group) :
    ∃ before first second after, before.length = past.length ∧
      applyAll alarm (past ++ one :: other :: later) =
        ((applyAll alarm (past ++ one :: other :: later)).1,
          before ++ first :: second :: after) ∧
      applyAll alarm (past ++ other :: one :: later) =
        ((applyAll alarm (past ++ one :: other :: later)).1,
          before ++ second :: first :: after) := by
  obtain ⟨oneTime, oneChange⟩ := one
  obtain ⟨otherTime, otherChange⟩ := other
  have same := apply_swap (oneTime, oneChange) (otherTime, otherChange) different
    (applyAll alarm past).1
  have unmoved := replaced_apart oneTime oneChange otherChange
    (applyAll alarm past).1 different
  have kept := replaced_apart otherTime otherChange oneChange
    (applyAll alarm past).1 different.symm
  refine ⟨(applyAll alarm past).2, oneChange.replaced (applyAll alarm past).1,
    otherChange.replaced (applyAll alarm past).1,
    (applyAll (otherChange.apply otherTime (oneChange.apply oneTime
      (applyAll alarm past).1)) later).2, answers_length alarm past, ?_, ?_⟩
  · simp only [applyAll_append, applyAll, unmoved]
  · simp only [applyAll_append, applyAll, kept, same]

/-- Whatever is called on an alarm since it was raised, and whenever, each group of
its fields is what the latest call of the group made it, and each call answers what
it found in its own group. -/
theorem calls_write_their_groups (birth : Timestamp) (id : AlarmId)
    (uei reductionKey : String) (level : Severity) (calls : AlarmCalls) :
    calls.LastWritersWin birth id uei reductionKey level
      (applyAll (.raise birth id uei reductionKey level) calls).1
      (applyAll (.raise birth id uei reductionKey level) calls).2 := by
  obtain ⟨users, times⟩ := Prod.mk.inj
    (raised_acknowledgement birth id uei reductionKey level calls)
  have never : ∀ {α : Type} {field : Alarm → α},
      (AlarmGroup.description.Owns field fun _ _ value => value) →
        field (applyAll (.raise birth id uei reductionKey level) calls).1 =
          field (.raise birth id uei reductionKey level) := by
    intro α field owns
    rw [owns.applyAll]
    exact List.foldl_fixed _
  have born := never AlarmGroup.owns_firstEventTime
  have last := raised_lastEventTime birth id uei reductionKey level calls
  constructor
  case sameId => exact never AlarmGroup.owns_id
  case sameUei => exact never AlarmGroup.owns_uei
  case sameKey => exact never AlarmGroup.owns_reductionKey
  case firstEventTime => exact born
  case counter => exact raised_counter birth id uei reductionKey level calls
  case lastEventTime => exact last
  case chronological =>
    intro timely
    rw [Alarm.isChronological, born, last]
    exact decide_eq_true (lastOccurrence_timely birth calls timely)
  case description =>
    exact raised_description birth id uei reductionKey level calls
  case ackUser => exact users
  case ackTime => exact times
  case paired => rw [users, times, Option.isSome_map, Option.isSome_map]
  case acknowledged =>
    exact raised_acknowledged birth id uei reductionKey level calls
  case severity => exact raised_severity birth id uei reductionKey level calls
  case stickyMemo => exact raised_stickyMemo birth id uei reductionKey level calls
  case reductionKeyMemo =>
    exact raised_reductionKeyMemo birth id uei reductionKey level calls
  case answered => exact answers_length _ calls
  case answers =>
    intro past now change later split
    rw [split, answers_getElem?, raised_replaced]
  case swapped =>
    intro past one other later split different
    obtain ⟨before, first, second, after, length, here, there⟩ :=
      applyAll_swap (.raise birth id uei reductionKey level) past later one other
        different
    subst split
    exact ⟨before, first, second, after, length, congrArg Prod.snd here, there⟩

end AlarmCalls
end AlarmRelay
