import AlarmRelay.Proofs.Store
import AlarmRelay.Store.Index

/-!
# A store is a map from ids to records

What a store holds under an id follows from the calls that name the id
(`Follows`).  Its records stand in strictly increasing order of id, so one that is
held under an id is the only one of that id, and a store and an ordered map that
hold the same under every id list the same (`toList_eq`).
-/

set_option autoImplicit false

namespace AlarmRelay

namespace StoreCall

/-- The latest call decides what is held under the ids that it names. -/
theorem held_snoc (past : List StoreCall) (call : StoreCall) (id : AlarmId) :
    held (past ++ [call]) id = (call.leaves id).getD (held past id) := by
  rw [held, List.filterMap_append, List.getLast?_append]
  cases named : call.leaves id with
  | none => simp [held, named]
  | some left => simp [named]

end StoreCall

namespace AlarmStore

/-! ## Looking up and listing -/

theorem find?_of_mem (records : List Alarm) (alarm : Alarm)
    (sorted : records.Pairwise fun first second => first.id < second.id)
    (member : alarm ∈ records) :
    records.find? (fun other => other.id == alarm.id) = some alarm := by
  induction records with
  | nil => cases member
  | cons head rest ih =>
      obtain ⟨below, others⟩ := List.pairwise_cons.mp sorted
      rcases List.mem_cons.mp member with rfl | later
      · exact List.find?_cons_of_pos (by simp)
      · have apart : head.id ≠ alarm.id := UInt32.ne_of_lt (below alarm later)
        rw [List.find?_cons_of_neg (by simpa using apart)]
        exact ih others later

theorem get?_eq_some_iff (store : AlarmStore) (sorted : store.Sorted)
    (id : AlarmId) (alarm : Alarm) :
    store.get? id = some alarm ↔ alarm ∈ store.scan ∧ alarm.id = id := by
  constructor
  · intro found
    exact ⟨List.mem_of_find?_eq_some found, store.get?_id id alarm found⟩
  · rintro ⟨member, rfl⟩
    exact find?_of_mem store.records alarm sorted member

/-! ## Serving calls -/

theorem sorted_serve (store : AlarmStore) (sorted : store.Sorted)
    (call : StoreCall) : (store.serve call).2.Sorted := by
  cases call with
  | upsert alarm => exact store.sorted_upsert alarm sorted
  | remove id => exact store.sorted_remove id sorted
  | get id => exact sorted
  | size => exact sorted
  | isEmpty => exact sorted
  | scan => exact sorted

/-- A call changes what is held under the ids that it names. -/
theorem get?_serve (store : AlarmStore) (call : StoreCall) (id : AlarmId) :
    (store.serve call).2.get? id = (call.leaves id).getD (store.get? id) := by
  cases call with
  | upsert alarm =>
      rw [serve, get?_upsert, StoreCall.leaves]
      split <;> rfl
  | remove other =>
      rw [serve, get?_remove, StoreCall.leaves]
      split <;> rfl
  | get other => rfl
  | size => rfl
  | isEmpty => rfl
  | scan => rfl

theorem serveAll_append (store : AlarmStore) (past later : List StoreCall) :
    store.serveAll (past ++ later) =
      ((store.serveAll past).1 ++ ((store.serveAll past).2.serveAll later).1,
        ((store.serveAll past).2.serveAll later).2) := by
  induction past generalizing store with
  | nil => rfl
  | cons call rest ih => simp only [List.cons_append, serveAll, ih]

theorem serveAll_length (store : AlarmStore) (calls : List StoreCall) :
    (store.serveAll calls).1.length = calls.length := by
  induction calls generalizing store with
  | nil => rfl
  | cons call rest ih => simp only [serveAll, List.length_cons, ih]

theorem serveAll_getElem? (store : AlarmStore) (past later : List StoreCall)
    (call : StoreCall) :
    (store.serveAll (past ++ call :: later)).1[past.length]? =
      some ((store.serveAll past).2.serve call).1 := by
  have length := store.serveAll_length past
  rw [serveAll_append, List.getElem?_append_right (by omega), length,
    Nat.sub_self]
  rfl

theorem serveAll_seeding (seeds : List Alarm) :
    (empty.serveAll (StoreCall.seeding seeds)).2 = ofAlarms seeds := by
  have seeded : ∀ store : AlarmStore,
      (store.serveAll (StoreCall.seeding seeds)).2 =
        seeds.foldl upsert store := by
    induction seeds with
    | nil => exact fun _ => rfl
    | cons seed rest ih => exact fun store => ih (store.upsert seed)
  exact seeded empty

/-! ## What calls describe -/

/-- The store holds under every id what the calls describe, in order. -/
structure Follows (store : AlarmStore) (past : List StoreCall) : Prop where
  sorted : store.Sorted
  holds : ∀ id, store.get? id = StoreCall.held past id

theorem follows_empty : empty.Follows [] where
  sorted := List.Pairwise.nil
  holds := fun _ => rfl

theorem follows_serve (store : AlarmStore) (past : List StoreCall)
    (follows : store.Follows past) (call : StoreCall) :
    (store.serve call).2.Follows (past ++ [call]) where
  sorted := store.sorted_serve follows.sorted call
  holds := by
    intro id
    rw [get?_serve, StoreCall.held_snoc, follows.holds]

theorem follows_serveAll (store : AlarmStore) (past calls : List StoreCall)
    (follows : store.Follows past) :
    (store.serveAll calls).2.Follows (past ++ calls) := by
  induction calls generalizing store past with
  | nil => rwa [List.append_nil]
  | cons call rest ih =>
      have onward := ih (store.serve call).2 (past ++ [call])
        (store.follows_serve past follows call)
      rwa [List.append_assoc] at onward

theorem follows_seeded (seeds : List Alarm) (calls : List StoreCall) :
    ((ofAlarms seeds).serveAll calls).2.Follows
      (StoreCall.seeding seeds ++ calls) := by
  have seeded := follows_serveAll empty [] (StoreCall.seeding seeds)
    follows_empty
  rw [serveAll_seeding, List.nil_append] at seeded
  exact follows_serveAll _ _ calls seeded

theorem serve_answers (store : AlarmStore) (past : List StoreCall)
    (follows : store.Follows past) (call : StoreCall) :
    (store.serve call).1 = call.answer past store.scan := by
  cases call with
  | upsert alarm => rw [serve, StoreCall.answer, follows.holds]
  | remove id => rw [serve, StoreCall.answer, follows.holds]
  | get id => rw [serve, StoreCall.answer, follows.holds]
  | size => rfl
  | isEmpty =>
      rcases store with ⟨_ | ⟨first, rest⟩⟩
      · rfl
      · rfl
  | scan => rfl

theorem recalls_follows (store : AlarmStore) (past : List StoreCall)
    (follows : store.Follows past) : store.Recalls past where
  holds := follows.holds
  ownId := store.get?_id
  ordered := follows.sorted
  scanned := by
    intro alarm
    rw [← follows.holds, store.get?_eq_some_iff follows.sorted]
    exact (and_iff_left rfl).symm
  found := store.get?_eq_some_iff follows.sorted
  size := rfl
  isEmpty := List.isEmpty_iff_length_eq_zero
  answers := store.serve_answers past follows
  untouched := by
    intro call id unnamed
    rw [get?_serve, unnamed]
    rfl
  reseeded := store.ofAlarms_scan follows.sorted

end AlarmStore

/-! ## Ordered maps -/

namespace AlarmIndex

/-- A map and a store hold the same under every id. -/
structure Agrees (index : AlarmIndex) (store : AlarmStore) : Prop where
  sorted : store.Sorted
  same : ∀ id, index[id]? = store.get? id

theorem toList_eq (index : AlarmIndex) (store : AlarmStore)
    (agrees : index.Agrees store) :
    index.toList = store.scan.map fun alarm => (alarm.id, alarm) := by
  have indexOrdered : index.toList.Pairwise
      fun first second => first.1 < second.1 :=
    Std.TreeMap.ordered_keys_toList.imp Std.compare_eq_lt.mp
  have storeOrdered : (store.scan.map fun alarm => (alarm.id, alarm)).Pairwise
      fun first second => first.1 < second.1 :=
    List.pairwise_map.mpr agrees.sorted
  have distinct : ∀ entries : List (AlarmId × Alarm),
      (entries.Pairwise fun first second => first.1 < second.1) →
        entries.Nodup := by
    intro entries ordered
    refine ordered.imp ?_
    rintro first second before rfl
    exact UInt32.lt_irrefl _ before
  have members : ∀ entry, entry ∈ index.toList ↔
      entry ∈ store.scan.map fun alarm => (alarm.id, alarm) := by
    rintro ⟨id, alarm⟩
    rw [Std.TreeMap.mem_toList_iff_getElem?_eq_some, agrees.same,
      store.get?_eq_some_iff agrees.sorted, List.mem_map]
    constructor
    · rintro ⟨member, rfl⟩
      exact ⟨alarm, member, rfl⟩
    · rintro ⟨other, member, same⟩
      cases same
      exact ⟨member, rfl⟩
  refine List.Perm.eq_of_pairwise ?_ indexOrdered storeOrdered
    ((List.perm_ext_iff_of_nodup (distinct _ indexOrdered)
      (distinct _ storeOrdered)).mpr members)
  intro first second _ _ before after
  exact absurd after (UInt32.lt_asymm before)

theorem agrees_serve (index : AlarmIndex) (store : AlarmStore)
    (agrees : index.Agrees store) (call : StoreCall) :
    (index.serve call).1 = (store.serve call).1 ∧
      Agrees (index.serve call).2 (store.serve call).2 := by
  have sorted := store.sorted_serve agrees.sorted call
  have listed := index.toList_eq store agrees
  cases call with
  | upsert alarm =>
      refine ⟨congrArg _ (agrees.same alarm.id), sorted, ?_⟩
      intro id
      rw [AlarmStore.serve, serve, Std.TreeMap.getElem?_insert,
        store.get?_upsert, agrees.same]
      simp only [Std.compare_eq_iff_eq]
  | remove id =>
      refine ⟨congrArg _ (agrees.same id), sorted, ?_⟩
      intro other
      rw [AlarmStore.serve, serve, Std.TreeMap.getElem?_erase,
        store.get?_remove, agrees.same]
      simp only [Std.compare_eq_iff_eq]
  | get id => exact ⟨congrArg _ (agrees.same id), agrees⟩
  | size =>
      refine ⟨?_, agrees⟩
      rw [serve, AlarmStore.serve, ← Std.TreeMap.length_toList, listed,
        List.length_map]
      rfl
  | isEmpty =>
      refine ⟨?_, agrees⟩
      rw [serve, AlarmStore.serve, ← Std.TreeMap.isEmpty_toList, listed,
        List.isEmpty_map]
      rfl
  | scan =>
      refine ⟨?_, agrees⟩
      rw [serve, AlarmStore.serve, listed, List.map_map]
      exact congrArg _ (List.map_id _)

theorem agrees_serveAll (index : AlarmIndex) (store : AlarmStore)
    (agrees : index.Agrees store) (calls : List StoreCall) :
    (index.serveAll calls).1 = (store.serveAll calls).1 ∧
      Agrees (index.serveAll calls).2 (store.serveAll calls).2 := by
  induction calls generalizing index store with
  | nil => exact ⟨rfl, agrees⟩
  | cons call rest ih =>
      obtain ⟨answer, served⟩ := index.agrees_serve store agrees call
      obtain ⟨answers, final⟩ := ih _ _ served
      exact ⟨congrArg₂ List.cons answer answers, final⟩

theorem agrees_ofAlarms (seeds : List Alarm) :
    Agrees (ofAlarms seeds) (.ofAlarms seeds) := by
  have seeded : ∀ (index : AlarmIndex) (store : AlarmStore),
      index.Agrees store →
        Agrees
          (seeds.foldl (fun index alarm => index.insert alarm.id alarm) index)
          (seeds.foldl AlarmStore.upsert store) := by
    induction seeds with
    | nil => exact fun _ _ agrees => agrees
    | cons seed rest ih =>
        intro index store agrees
        exact ih _ _ (index.agrees_serve store agrees (.upsert seed)).2
  exact seeded ∅ .empty ⟨List.Pairwise.nil, fun _ => Std.TreeMap.getElem?_emptyc⟩

end AlarmIndex

namespace AlarmStore

/-- However a store is seeded and whatever is called on it, it is the map from ids to
records that the seeds and the calls describe: it answers every call like that map,
and lists it in order of the ids. -/
theorem stores_refine_maps (seeds : List Alarm) (calls : List StoreCall) :
    RefinesMap seeds calls ((ofAlarms seeds).serveAll calls).1
      ((ofAlarms seeds).serveAll calls).2 := by
  obtain ⟨alike, agrees⟩ := AlarmIndex.agrees_serveAll _ _
    (AlarmIndex.agrees_ofAlarms seeds) calls
  constructor
  case recalls => exact recalls_follows _ _ (follows_seeded seeds calls)
  case answered => exact serveAll_length _ calls
  case answers =>
    intro before call after split
    have follows := follows_seeded seeds before
    refine ⟨_, recalls_follows _ _ follows, ?_⟩
    rw [split, serveAll_getElem?, serve_answers _ _ follows]
  case alike => exact alike
  case keyed => exact AlarmIndex.toList_eq _ _ agrees

end AlarmStore
end AlarmRelay
