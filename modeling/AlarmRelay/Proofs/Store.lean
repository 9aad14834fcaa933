import AlarmRelay.Hub.History

/-!
# Sorted stores

A store keeps its records in increasing order of id, so a store that is filled
from its own scan is the same store.  To take in the same alarm twice changes as
much as to take it in once.
-/

set_option autoImplicit false

namespace AlarmRelay

theorem Mark.accepted_append (listener : Listener) (first second : List Mark) :
    Mark.accepted listener (first ++ second) =
      Mark.accepted listener first ++ Mark.accepted listener second := by
  simp [Mark.accepted]

namespace AlarmStore

def Sorted (store : AlarmStore) : Prop :=
  store.records.Pairwise fun first second => first.id < second.id

theorem mem_insertRecord (alarm other : Alarm) (records : List Alarm)
    (member : other ∈ insertRecord alarm records) :
    other = alarm ∨ other ∈ records := by
  induction records with
  | nil => simpa [insertRecord] using member
  | cons head rest ih =>
      simp only [insertRecord] at member
      split at member
      · simpa using member
      · split at member
        · rcases List.mem_cons.mp member with same | later
          · exact Or.inl same
          · exact Or.inr (List.mem_cons_of_mem _ later)
        · rcases List.mem_cons.mp member with same | later
          · exact Or.inr (List.mem_cons.mpr (Or.inl same))
          · rcases ih later with same | later
            · exact Or.inl same
            · exact Or.inr (List.mem_cons_of_mem _ later)

theorem sorted_insertRecord (alarm : Alarm) (records : List Alarm)
    (sorted : records.Pairwise fun first second => first.id < second.id) :
    (insertRecord alarm records).Pairwise
      fun first second => first.id < second.id := by
  induction records with
  | nil => simp [insertRecord]
  | cons head rest ih =>
      obtain ⟨first, others⟩ := List.pairwise_cons.mp sorted
      simp only [insertRecord]
      by_cases before : alarm.id < head.id
      · rw [if_pos before]
        refine List.pairwise_cons.mpr ⟨?_, sorted⟩
        intro other member
        rcases List.mem_cons.mp member with rfl | later
        · exact before
        · exact UInt32.lt_trans before (first other later)
      · rw [if_neg before]
        by_cases same : alarm.id = head.id
        · rw [if_pos same]
          refine List.pairwise_cons.mpr ⟨?_, others⟩
          intro other later
          rw [same]
          exact first other later
        · rw [if_neg same]
          refine List.pairwise_cons.mpr ⟨?_, ih others⟩
          intro other member
          rcases mem_insertRecord alarm other rest member with rfl | later
          · rw [UInt32.lt_iff_toNat_lt] at before ⊢
            have apart : other.id.toNat ≠ head.id.toNat :=
              fun equal => same (UInt32.toNat_inj.mp equal)
            omega
          · exact first other later

theorem sorted_upsert (store : AlarmStore) (alarm : Alarm)
    (sorted : store.Sorted) : (store.upsert alarm).Sorted :=
  sorted_insertRecord alarm store.records sorted

theorem sorted_remove (store : AlarmStore) (id : AlarmId)
    (sorted : store.Sorted) : (store.remove id).Sorted :=
  sorted.sublist List.filter_sublist

theorem sorted_ofAlarms (alarms : List Alarm) : (ofAlarms alarms).Sorted := by
  have grown : ∀ store : AlarmStore, store.Sorted →
      (alarms.foldl upsert store).Sorted := by
    induction alarms with
    | nil => exact fun _ sorted => sorted
    | cons alarm rest ih =>
        intro store sorted
        exact ih (store.upsert alarm) (store.sorted_upsert alarm sorted)
  exact grown empty List.Pairwise.nil

theorem sorted_history (start : AlarmStore) (history : History)
    (sorted : start.Sorted) : (history.store start).Sorted := by
  induction history generalizing start with
  | nil => exact sorted
  | cons entry rest ih =>
      obtain ⟨now, event⟩ := entry
      cases event with
      | hub event => exact ih start sorted
      | write change =>
          cases change with
          | upsert alarm => exact ih _ (start.sorted_upsert alarm sorted)
          | remove id => exact ih _ (start.sorted_remove id sorted)

/-- A record above all others goes to the end. -/
theorem insertRecord_last (alarm : Alarm) (records : List Alarm)
    (below : ∀ other ∈ records, other.id < alarm.id) :
    insertRecord alarm records = records ++ [alarm] := by
  induction records with
  | nil => rfl
  | cons head rest ih =>
      have first := below head List.mem_cons_self
      rw [UInt32.lt_iff_toNat_lt] at first
      have after : ¬ alarm.id < head.id := by
        rw [UInt32.lt_iff_toNat_lt]
        omega
      have apart : alarm.id ≠ head.id := by
        intro same
        rw [same] at first
        omega
      rw [insertRecord, if_neg after, if_neg apart,
        ih fun other later => below other (List.mem_cons_of_mem _ later)]
      rfl

theorem ofAlarms_scan (store : AlarmStore) (sorted : store.Sorted) :
    ofAlarms store.scan = store := by
  have filled : ∀ records past : List Alarm,
      (past ++ records).Pairwise (fun first second => first.id < second.id) →
        records.foldl upsert ⟨past⟩ = ⟨past ++ records⟩ := by
    intro records
    induction records with
    | nil => simp
    | cons alarm rest ih =>
        intro past ordered
        have below : ∀ other ∈ past, other.id < alarm.id := fun other member =>
          (List.pairwise_append.mp ordered).2.2 other member alarm
            List.mem_cons_self
        rw [List.foldl_cons, upsert, insertRecord_last alarm past below,
          ih (past ++ [alarm]) (by simpa using ordered)]
        simp
  exact filled store.records [] sorted

/-! ## Looking a record up -/

theorem find?_insertRecord (alarm : Alarm) (records : List Alarm)
    (id : AlarmId) :
    (insertRecord alarm records).find? (fun other => other.id == id) =
      if alarm.id = id then some alarm
      else records.find? (fun other => other.id == id) := by
  have first : ∀ (head : Alarm) (rest : List Alarm),
      (head :: rest).find? (fun other => other.id == id) =
        if head.id = id then some head
        else rest.find? (fun other => other.id == id) := by
    intro head rest
    by_cases named : head.id = id
    · rw [if_pos named, List.find?_cons_of_pos (by simpa using named)]
    · rw [if_neg named, List.find?_cons_of_neg (by simpa using named)]
  induction records with
  | nil => exact first alarm []
  | cons head rest ih =>
      simp only [insertRecord]
      split
      · exact first alarm (head :: rest)
      · split
        · rename_i same
          rw [first, first, ← same]
          split <;> rfl
        · rename_i different
          rw [first, first, ih]
          by_cases named : head.id = id
          · have other : alarm.id ≠ id :=
              fun here => different (here.trans named.symm)
            simp [named, other]
          · simp [named]

/-- An alarm that was stored is found under its own id, and nothing else changes. -/
theorem get?_upsert (store : AlarmStore) (alarm : Alarm) (id : AlarmId) :
    (store.upsert alarm).get? id =
      if alarm.id = id then some alarm else store.get? id :=
  find?_insertRecord alarm store.records id

theorem get?_remove (store : AlarmStore) (id other : AlarmId) :
    (store.remove id).get? other =
      if id = other then none else store.get? other := by
  simp only [remove, get?, List.find?_filter]
  split
  · rename_i same
    subst same
    simp
  · rename_i different
    congr 1
    funext alarm
    by_cases named : alarm.id = other
    · simp [named, Ne.symm different]
    · simp [named]

theorem get?_id (store : AlarmStore) (id : AlarmId) (alarm : Alarm)
    (found : store.get? id = some alarm) : alarm.id = id := by
  simpa using List.find?_some found

/-! ## Views -/

theorem follow_append (view : AlarmStore) (first second : List Delivery) :
    view.follow (first ++ second) = (view.follow first).follow second :=
  List.foldl_append

theorem insertRecord_twice (alarm : Alarm) (records : List Alarm) :
    insertRecord alarm (insertRecord alarm records) =
      insertRecord alarm records := by
  have irreflexive : ¬ alarm.id < alarm.id := UInt32.lt_irrefl alarm.id
  induction records with
  | nil => simp [insertRecord, irreflexive]
  | cons head rest ih =>
      by_cases before : alarm.id < head.id
      · simp [insertRecord, before, irreflexive]
      · by_cases same : alarm.id = head.id
        · simp [insertRecord, same]
        · simp [insertRecord, before, same, ih]

theorem upsert_twice (store : AlarmStore) (alarm : Alarm) :
    (store.upsert alarm).upsert alarm = store.upsert alarm :=
  congrArg AlarmStore.mk (insertRecord_twice alarm store.records)

/-- Taking in one alarm again and again changes nothing any more. -/
theorem follow_upserts (store : AlarmStore) (alarm : Alarm) (count : Nat) :
    (store.upsert alarm).follow (List.replicate count (.upsert alarm)) =
      store.upsert alarm := by
  induction count with
  | zero => rfl
  | succ count ih =>
      rw [List.replicate_succ, follow, List.foldl_cons, receive, upsert_twice]
      exact ih

end AlarmStore
end AlarmRelay
