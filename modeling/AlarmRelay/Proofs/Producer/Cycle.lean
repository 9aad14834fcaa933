import AlarmRelay.Proofs.Producer.Rotation
import AlarmRelay.Proofs.Producer.Workshop

/-!
# Pools live in cycles

When an alarm of the pool is visited, it has been visited once in every round before,
so the round says what happens to it.  By induction over the steps this settles what
every alarm of the pool has become, and in which order its changes are announced.
-/

set_option autoImplicit false

namespace AlarmRelay

/-! ## What a visit does -/

namespace Alarm

theorem aged_newborn (now : Timestamp) (id : AlarmId) :
    (Producer.newborn now id).IsAged id 1 :=
  ⟨rfl, rfl, rfl, rfl, rfl, rfl, rfl, rfl⟩

variable {id : AlarmId} {alarm : Alarm}

theorem aged_reduce (now : Timestamp) (aged : alarm.IsAged id 1) :
    (alarm.reduce now).IsAged id 2 where
  named := aged.named
  reductionKey := aged.reductionKey
  counter := by
    rw [reduce, aged.counter]
    rfl
  severity := aged.severity
  ackUser := aged.ackUser
  ackTime := aged.ackTime
  stickyMemo := aged.stickyMemo
  reductionKeyMemo := aged.reductionKeyMemo

theorem aged_major (aged : alarm.IsAged id 2) :
    (alarm.setSeverity .major).IsAged id 3 :=
  { aged with severity := rfl }

theorem aged_acknowledge (now : Timestamp) (memo : Memo)
    (aged : alarm.IsAged id 3) :
    ((alarm.acknowledge now Producer.user).setStickyMemo (some memo)).IsAged
      id 4 :=
  { aged with ackUser := rfl, ackTime := rfl, stickyMemo := rfl }

theorem aged_unacknowledge (aged : alarm.IsAged id 4) :
    (alarm.unacknowledge.setStickyMemo none).IsAged id 5 :=
  { aged with ackUser := rfl, ackTime := rfl, stickyMemo := rfl }

theorem aged_clear (memo : Memo) (aged : alarm.IsAged id 5) :
    (alarm.clear.setReductionKeyMemo (some memo)).IsAged id 6 :=
  { aged with severity := rfl, reductionKeyMemo := rfl }

end Alarm

namespace Producer

open ProducerAction

/-- A round changes a stored alarm and announces the change, or it is the last round
of a life, which removes the alarm as well. -/
theorem alter_cases (now later : Timestamp) (round : Nat) (alarm : Alarm) :
    (∃ changed kinds, alter now later round alarm = change changed kinds ∧
      changed.id = alarm.id ∧ round % 7 ≠ 6) ∨
    ∃ last, alter now later round alarm =
        change last [.reductionKeyMemoDeleted] ++
          [.erase alarm.id, .announce (.deletionOf last)] ∧
      last.id = alarm.id ∧ round % 7 = 6 := by
  unfold alter
  split
  case h_7 =>
    have last : round % 7 = 6 := by
      simp only [imp_false] at *
      omega
    exact Or.inr ⟨alarm.setReductionKeyMemo none, rfl, rfl, last⟩
  all_goals
    have early : round % 7 ≠ 6 := by omega
    exact Or.inl ⟨_, _, rfl, rfl, early⟩

theorem applyAll_append (store : AlarmStore) (first second : List ProducerAction) :
    applyAll store (first ++ second) = applyAll (applyAll store first) second :=
  List.foldl_append

variable (now later : Timestamp) (round : Nat) (store : AlarmStore) (alarm : Alarm)

/-- A stored alarm is gone after the last round of a life, and after no other. -/
theorem get?_alter_none :
    (applyAll store (alter now later round alarm)).get? alarm.id = none ↔
      round % 7 = 6 := by
  rcases alter_cases now later round alarm with
    ⟨changed, kinds, plan, named, early⟩ | ⟨last, plan, named, isLast⟩
  · rw [plan, applyAll_change, AlarmStore.get?_upsert, named, if_pos rfl]
    simpa using early
  · rw [plan, applyAll_append, applyAll_change]
    change (((store.upsert last).remove alarm.id).get? alarm.id) = none ↔ _
    rw [AlarmStore.get?_remove, if_pos rfl]
    simpa using isLast

theorem change_ids (kinds : List ContentKind) (action : ProducerAction)
    (member : action ∈ change alarm kinds) (id : AlarmId)
    (about : action.id? = some id) : id = alarm.id := by
  rcases List.mem_cons.mp member with rfl | announced
  · cases about
    rfl
  · obtain ⟨kind, _, rfl⟩ := List.mem_map.mp announced
    cases about
    rfl

theorem alter_ids (action : ProducerAction)
    (member : action ∈ alter now later round alarm) (id : AlarmId)
    (about : action.id? = some id) : id = alarm.id := by
  rcases alter_cases now later round alarm with
    ⟨changed, kinds, plan, named, _⟩ | ⟨last, plan, named, _⟩
  · rw [plan] at member
    exact (change_ids changed kinds action member id about).trans named
  · rw [plan, List.mem_append] at member
    rcases member with written | removed
    · exact (change_ids last _ action written id about).trans named
    · simp only [List.mem_cons, List.not_mem_nil, or_false] at removed
      rcases removed with rfl | rfl
      · cases about
        rfl
      · cases about
        exact named

/-- An alarm of the age of the round is one visit older afterwards. -/
theorem aged_alter (id : AlarmId) (living : 0 < round % 7)
    (aged : alarm.IsAged id (round % 7)) :
    Alarm.EntryAged id ((round + 1) % 7)
      ((applyAll store (alter now later round alarm)).get? id) := by
  have named := aged.named
  by_cases isLast : round % 7 = 6
  · have gone := (get?_alter_none now later round store alarm).mpr isLast
    rw [named] at gone
    rw [gone]
    show (round + 1) % 7 = 0
    omega
  · have older : (round + 1) % 7 = round % 7 + 1 := by omega
    have becomes : ∀ (changed : Alarm) (kinds : List ContentKind),
        changed.id = alarm.id → changed.IsAged id (round % 7 + 1) →
          Alarm.EntryAged id (round % 7 + 1)
            ((applyAll store (change changed kinds)).get? id) := by
      intro changed kinds same grown
      rw [applyAll_change, AlarmStore.get?_upsert, same, named, if_pos rfl]
      exact ⟨Nat.succ_pos _, grown⟩
    rw [older]
    unfold alter
    split
    case h_1 here => omega
    case h_7 =>
      simp only [imp_false] at *
      omega
    all_goals
      rename_i here
      rw [here] at aged becomes ⊢
    case h_2 => exact becomes _ _ rfl (Alarm.aged_reduce now aged)
    case h_3 => exact becomes _ _ rfl (Alarm.aged_major aged)
    case h_4 => exact becomes _ _ rfl (Alarm.aged_acknowledge now _ aged)
    case h_5 => exact becomes _ _ rfl (Alarm.aged_unacknowledge aged)
    case h_6 => exact becomes _ _ rfl (Alarm.aged_clear _ aged)

/-- A round announces what the life cycle says. -/
theorem labels_alter (living : 0 < round % 7) :
    ((alter now later round alarm).filterMap event?).map AlarmEvent.label =
      lifecycle.getD (round % 7) [] := by
  unfold alter
  split
  case h_1 here => omega
  case h_7 =>
    have last : round % 7 = 6 := by
      simp only [imp_false] at *
      omega
    rw [last]
    rfl
  all_goals
    rename_i here
    rw [here]
    rfl

/-- A step changes and announces its target only. -/
theorem plan_ids (producer : Producer) (action : ProducerAction)
    (member : action ∈ producer.plan now later store) (id : AlarmId)
    (about : action.id? = some id) : id = producer.target := by
  unfold plan at member
  split at member
  · exact change_ids (newborn now producer.target) _ action member id about
  · rename_i alarm found
    rcases List.mem_append.mp member with altered | noted
    · have same := alter_ids now later producer.round alarm action altered id about
      exact same.trans (store.get?_id _ alarm found)
    · rw [List.mem_singleton.mp noted] at about
      cases about

/-- An alarm of the age of the round, and an absent one at the beginning of a life,
is one visit older after a step that acts on it, and this is announced. -/
theorem aged_plan (producer : Producer)
    (aged : Alarm.EntryAged producer.target (producer.round % 7)
      (store.get? producer.target)) :
    Alarm.EntryAged producer.target ((producer.round + 1) % 7)
        ((applyAll store (producer.plan now later store)).get? producer.target) ∧
      ((producer.plan now later store).filterMap event?).map AlarmEvent.label =
        lifecycle.getD (producer.round % 7) [] := by
  unfold plan
  cases found : store.get? producer.target with
  | none =>
      rw [found] at aged
      have newest : producer.round % 7 = 0 := aged
      have next : (producer.round + 1) % 7 = 1 := by omega
      have own : (newborn now producer.target).id = producer.target := rfl
      rw [next, newest, applyAll_change, AlarmStore.get?_upsert, if_pos own]
      exact ⟨⟨Nat.one_pos, Alarm.aged_newborn now producer.target⟩, rfl⟩
  | some alarm =>
      rw [found] at aged
      obtain ⟨living, grown⟩ := aged
      have older := aged_alter now later producer.round store alarm
        producer.target living grown
      refine ⟨?_, ?_⟩
      · rw [applyAll_append]
        exact older
      · rw [List.filterMap_append, List.map_append,
          labels_alter now later producer.round alarm living]
        exact List.append_nil _

/-- A step that acts on a stored alarm removes it in the last round of a life. -/
theorem get?_plan_none (producer : Producer)
    (present : store.get? producer.target ≠ none) :
    (applyAll store (producer.plan now later store)).get? producer.target =
        none ↔ producer.round % 7 = 6 := by
  unfold plan
  cases found : store.get? producer.target with
  | none => exact absurd found present
  | some alarm =>
      have named := store.get?_id _ alarm found
      rw [applyAll_append, ← get?_alter_none now later producer.round store alarm,
        named]
      rfl

end Producer

/-! ## Step after step -/

namespace ProducerAction

variable (id : AlarmId) (actions : List ProducerAction)
  (others : ∀ action ∈ actions, action.id? ≠ some id)

include others

/-- An alarm that no action is about stays as it is. -/
theorem get?_applyAll_other (store : AlarmStore) :
    (applyAll store actions).get? id = store.get? id := by
  induction actions generalizing store with
  | nil => rfl
  | cons action rest ih =>
      have later := ih (fun other member =>
        others other (List.mem_cons_of_mem _ member)) (action.applyTo store)
      have apart := others action List.mem_cons_self
      refine later.trans ?_
      cases action with
      | write alarm =>
          exact (store.get?_upsert alarm id).trans
            (if_neg fun same => apart (congrArg some same))
      | erase other =>
          exact (store.get?_remove other id).trans
            (if_neg fun same => apart (congrArg some same))
      | announce event => rfl
      | note record => rfl

theorem events_other :
    (actions.filterMap event?).filter (fun event => event.alarmId == id) =
      [] := by
  rw [List.filter_eq_nil_iff]
  intro event member
  obtain ⟨action, present, shown⟩ := List.mem_filterMap.mp member
  have apart := others action present
  cases action with
  | announce announced =>
      cases shown
      simpa [id?] using apart
  | _ => cases shown

end ProducerAction

namespace Labour

open ProducerAction

/-- What holds of a store and of the events about it after so many steps. -/
structure Grown (maxAlarms : UInt32) (start : AlarmStore) (labour : Labour) :
    Prop where
  producer : labour.producer = .before maxAlarms labour.producer.steps
  outside : ∀ id, ¬ labour.producer.owns id →
    labour.store.get? id = start.get? id
  aged : ∀ id, labour.producer.owns id →
    (start.get? id = none ∨ 7 ≤ labour.producer.visits id) →
      Alarm.EntryAged id (labour.producer.visits id % 7)
        (labour.store.get? id)
  young : ∀ id, labour.producer.owns id → start.get? id ≠ none →
    labour.producer.visits id < 7 → labour.store.get? id ≠ none
  told : ∀ id, labour.producer.owns id → start.get? id = none →
    labour.labels id = (List.range (labour.producer.visits id)).flatMap
      fun visit => Producer.lifecycle.getD (visit % 7) []

variable (maxAlarms : UInt32) (start : AlarmStore)

theorem grown_begun : (begun maxAlarms start).Grown maxAlarms start := by
  have unvisited : ∀ id, (Producer.create maxAlarms).owns id →
      (Producer.create maxAlarms).visits id = 0 :=
    fun id owned => (Producer.count_visits maxAlarms 0 id owned).symm
  constructor
  case producer => rfl
  case outside => exact fun id _ => rfl
  case young => exact fun id _ present _ => present
  case aged =>
    intro id owned reason
    change (Producer.create maxAlarms).owns id at owned
    change _ ∨ 7 ≤ (Producer.create maxAlarms).visits id at reason
    change Alarm.EntryAged id ((Producer.create maxAlarms).visits id % 7)
      (start.get? id)
    rw [unvisited id owned] at reason ⊢
    have absent : start.get? id = none :=
      reason.resolve_right (Nat.not_succ_le_zero 6)
    rw [absent]
    rfl
  case told =>
    intro id owned _
    change [] = (List.range ((Producer.create maxAlarms).visits id)).flatMap _
    rw [unvisited id owned]
    rfl

variable (labour : Labour) (reading : Timestamp × Timestamp)

theorem labels_step (id : AlarmId) :
    (labour.step reading).labels id = labour.labels id ++
      ((((labour.producer.plan reading.1 reading.2 labour.store).filterMap
        event?).filter fun event => event.alarmId == id).map
          AlarmEvent.label) := by
  simp [labels, step]

/-- An alarm that a step does not act on stays as it is. -/
theorem step_other (id : AlarmId) (other : labour.producer.target ≠ id) :
    (labour.step reading).store.get? id = labour.store.get? id ∧
      (labour.step reading).labels id = labour.labels id := by
  have others : ∀ action ∈
      labour.producer.plan reading.1 reading.2 labour.store,
        action.id? ≠ some id := by
    intro action member about
    exact other (Producer.plan_ids _ _ _ labour.producer action member id
      about).symm
  refine ⟨get?_applyAll_other id _ others labour.store, ?_⟩
  rw [labels_step, events_other id _ others]
  exact List.append_nil _

theorem step_labels : (labour.step reading).labels labour.producer.target =
    labour.labels labour.producer.target ++
      (((labour.producer.plan reading.1 reading.2 labour.store).filterMap
        event?).map AlarmEvent.label) := by
  rw [labels_step]
  congr 2
  apply List.filter_eq_self.mpr
  intro event member
  obtain ⟨action, present, shown⟩ := List.mem_filterMap.mp member
  cases action with
  | announce announced =>
      cases shown
      have named := Producer.plan_ids _ _ _ labour.producer _ present
        event.alarmId rfl
      simpa using named
  | _ => cases shown

section

variable {maxAlarms : UInt32} {start : AlarmStore} {labour : Labour}
  (grown : labour.Grown maxAlarms start)

include grown

theorem grown_small : labour.producer.poolSize < UInt32.size := by
  rw [grown.producer]
  exact Producer.poolSize_small maxAlarms _

theorem grown_target : labour.producer.owns labour.producer.target :=
  labour.producer.target_owned (grown_small grown)

/-- A step is a visit of its target and of nobody else. -/
theorem step_visited : (labour.step reading).producer.visits
    labour.producer.target = labour.producer.round + 1 := by
  have small := grown_small grown
  have next := labour.producer.visits_next small _ (grown_target grown)
  rwa [if_pos rfl, labour.producer.visits_target small] at next

theorem step_unvisited (id : AlarmId) (owned : labour.producer.owns id)
    (other : labour.producer.target ≠ id) :
    (labour.step reading).producer.visits id = labour.producer.visits id := by
  have next := labour.producer.visits_next (grown_small grown) id owned
  rwa [if_neg other, Nat.add_zero] at next

/-- An alarm that was there at first is still there at the last visit of its first
life, if not before. -/
theorem target_young (seeded : start.get? labour.producer.target ≠ none)
    (few : labour.producer.round < 7) :
    labour.store.get? labour.producer.target ≠ none := by
  refine grown.young _ (grown_target grown) seeded ?_
  rwa [labour.producer.visits_target (grown_small grown)]

/-- Its target is as old as its visits say, unless it was there at first and has not
reached the end of its first life. -/
theorem target_aged (reason : start.get? labour.producer.target = none ∨
      7 ≤ labour.producer.round) :
    Alarm.EntryAged labour.producer.target (labour.producer.round % 7)
      (labour.store.get? labour.producer.target) := by
  rw [← labour.producer.visits_target (grown_small grown)] at reason ⊢
  exact grown.aged _ (grown_target grown) reason

theorem aged_step (id : AlarmId) (owned : labour.producer.owns id)
    (reason : start.get? id = none ∨
      7 ≤ (labour.step reading).producer.visits id) :
    Alarm.EntryAged id ((labour.step reading).producer.visits id % 7)
      ((labour.step reading).store.get? id) := by
  by_cases other : labour.producer.target ≠ id
  · rw [step_unvisited reading grown id owned other] at reason ⊢
    rw [(labour.step_other reading id other).1]
    exact grown.aged id owned reason
  · obtain rfl := Decidable.not_not.mp other
    rw [step_visited reading grown] at reason ⊢
    -- At the end of its first life an alarm that was there at first is gone, and from
    -- then on it is as old as its visits say.
    by_cases first : start.get? labour.producer.target ≠ none ∧
        labour.producer.round = 6
    · obtain ⟨seeded, last⟩ := first
      have present := target_young grown seeded (by omega)
      have gone := (Producer.get?_plan_none reading.1 reading.2 labour.store
        labour.producer present).mpr (by omega)
      change Alarm.EntryAged _ _ ((applyAll labour.store _).get? _)
      rw [gone, last]
      rfl
    · have known := target_aged grown (by
        by_cases absent : start.get? labour.producer.target = none
        · exact Or.inl absent
        · have often := reason.resolve_left absent
          have apart : labour.producer.round ≠ 6 :=
            fun last => first ⟨absent, last⟩
          exact Or.inr (by omega))
      exact (Producer.aged_plan _ _ _ labour.producer known).1

theorem young_step (id : AlarmId) (owned : labour.producer.owns id)
    (seeded : start.get? id ≠ none)
    (few : (labour.step reading).producer.visits id < 7) :
    (labour.step reading).store.get? id ≠ none := by
  by_cases other : labour.producer.target ≠ id
  · rw [step_unvisited reading grown id owned other] at few
    rw [(labour.step_other reading id other).1]
    exact grown.young id owned seeded few
  · obtain rfl := Decidable.not_not.mp other
    rw [step_visited reading grown] at few
    have present := target_young grown seeded (by omega)
    intro gone
    have last := (Producer.get?_plan_none reading.1 reading.2 labour.store
      labour.producer present).mp gone
    omega

theorem told_step (id : AlarmId) (owned : labour.producer.owns id)
    (absent : start.get? id = none) :
    (labour.step reading).labels id =
      (List.range ((labour.step reading).producer.visits id)).flatMap
        fun visit => Producer.lifecycle.getD (visit % 7) [] := by
  by_cases other : labour.producer.target ≠ id
  · rw [step_unvisited reading grown id owned other,
      (labour.step_other reading id other).2]
    exact grown.told id owned absent
  · obtain rfl := Decidable.not_not.mp other
    have known := target_aged grown (Or.inl absent)
    rw [step_visited reading grown, step_labels, grown.told _ owned absent,
      labour.producer.visits_target (grown_small grown),
      (Producer.aged_plan _ _ _ labour.producer known).2, List.range_succ,
      List.flatMap_append, List.flatMap_singleton]

theorem grown_step : (labour.step reading).Grown maxAlarms start where
  producer := by
    change labour.producer.next = _
    rw [grown.producer]
    rfl
  outside := by
    intro id stranger
    have other : labour.producer.target ≠ id := fun same =>
      stranger (same ▸ grown_target grown)
    rw [(labour.step_other reading id other).1]
    exact grown.outside id stranger
  aged := aged_step reading grown
  young := young_step reading grown
  told := told_step reading grown

end

theorem grown_after (readings : List (Timestamp × Timestamp)) :
    ((begun maxAlarms start).after readings).Grown maxAlarms start := by
  have onward : ∀ labour : Labour, labour.Grown maxAlarms start →
      (labour.after readings).Grown maxAlarms start := by
    induction readings with
    | nil => exact fun _ grown => grown
    | cons reading rest ih =>
        intro labour grown
        exact ih (labour.step reading) (grown_step reading grown)
  exact onward _ (grown_begun maxAlarms start)

/-- Visit after visit, the life cycle is repeated. -/
theorem visits_repeat (visits : Nat) :
    ((List.range visits).flatMap fun visit =>
        Producer.lifecycle.getD (visit % 7) []) <+:
      (List.replicate (visits / 7 + 1) Producer.lifecycle.flatten).flatten := by
  have lives : ∀ rounds : Nat,
      ((List.range (7 * rounds)).flatMap fun visit =>
          Producer.lifecycle.getD (visit % 7) []) =
        (List.replicate rounds Producer.lifecycle.flatten).flatten := by
    intro rounds
    induction rounds with
    | zero => rfl
    | succ rounds ih =>
        have same : ∀ visit, (7 * rounds + visit) % 7 = visit % 7 := by omega
        rw [Nat.mul_succ, List.range_add, List.flatMap_append, ih,
          List.replicate_succ', List.flatten_append, List.flatMap_map]
        simp only [same]
        rfl
  have whole : 7 * (visits / 7 + 1) = visits + (7 - visits % 7) := by omega
  rw [← lives, whole, List.range_add, List.flatMap_append]
  exact List.prefix_append _ _

variable (labour : Labour)

theorem cycles_grown (grown : labour.Grown maxAlarms start)
    (few : labour.producer.steps < UInt64.size) :
    labour.Cycles maxAlarms start := by
  have size : labour.producer.poolSize = (Producer.create maxAlarms).poolSize := by
    rw [grown.producer]
    rfl
  have owns : ∀ id, labour.producer.owns id →
      (Producer.create maxAlarms).owns id := by
    intro id owned
    rw [Producer.owns, size] at owned
    exact owned
  constructor
  case producer => exact grown.producer
  case size => exact size
  case words =>
    intro step earlier
    exact Producer.words_before maxAlarms step (by omega)
  case targets =>
    intro step earlier
    rw [Producer.target_toNat _ (Producer.poolSize_small maxAlarms step), size]
    rfl
  case acts =>
    intro step earlier now later store
    exact Producer.plan_ids now later store _
  case turns =>
    intro first within id owned
    rw [size]
    exact Producer.turn_before maxAlarms first id (owns id owned)
  case counts =>
    intro id owned
    rw [Producer.count_visits maxAlarms _ id (owns id owned), ← grown.producer]
  case outside => exact grown.outside
  case aged => exact grown.aged
  case seeded =>
    intro id owned present few
    constructor
    · intro gone
      by_cases young : labour.producer.visits id < 7
      · exact absurd gone (grown.young id owned present young)
      · omega
    · intro often
      have aged := grown.aged id owned (Or.inr (Nat.le_of_eq often.symm))
      rw [often] at aged
      cases found : labour.store.get? id with
      | none => rfl
      | some alarm =>
          rw [found] at aged
          exact absurd aged.1 (Nat.lt_irrefl 0)
  case told =>
    intro id owned absent
    rw [grown.told id owned absent]
    exact ⟨_, visits_repeat _⟩

end Labour

/-! ## Steps among other events -/

namespace Workshop

open ProducerAction

/-- Once the step under way has been taken to its end, a workshop has come as far as
a producer that nobody interrupts. -/
structure KeepsUp (shop : Workshop) (labour : Labour) : Prop where
  producer : labour.producer = shop.producer
  store : labour.store = applyAll shop.store shop.actions
  events : labour.events =
    shop.announced.map Prod.snd ++ shop.actions.filterMap event?

theorem keepsUp_react (shop next : Workshop) (now : Instant) (labour : Labour)
    (keepsUp : shop.KeepsUp labour) (effect : Effect now shop next) :
    next.KeepsUp labour ∨ ∃ reading, next.KeepsUp (labour.step reading) := by
  obtain ⟨producer, store, events⟩ := keepsUp
  cases effect with
  | plans clock later free idle =>
      rw [idle] at store events
      have same : labour.store = shop.store := store
      refine Or.inr ⟨(clock, later), ?_, ?_, ?_⟩
      · rw [← producer]
        rfl
      · simp only [Labour.step, producer, same]
        rfl
      · simp [Labour.step, producer, same, events]
  | writes alarm rest free due =>
      rw [due] at store events
      exact Or.inl ⟨producer, store, events⟩
  | erases id rest free due =>
      rw [due] at store events
      exact Or.inl ⟨producer, store, events⟩
  | announces event rest step free due reacted =>
      rw [due] at store events
      exact Or.inl ⟨producer, store, by simpa [event?] using events⟩
  | notes record rest due =>
      rw [due] at store events
      exact Or.inl ⟨producer, store, events⟩
  | passes event step reacted => exact Or.inl ⟨producer, store, events⟩

theorem keepsUp_run (hub : Hub) (maxAlarms : UInt32) (start : AlarmStore)
    (events : List (Instant × WorkEvent)) (shop : Workshop)
    (worked : (opened hub start (.create maxAlarms)).run events = some shop) :
    ∃ readings,
      shop.KeepsUp ((Labour.begun maxAlarms start).after readings) := by
  refine run_induction (motive := fun shop => ∃ readings,
    shop.KeepsUp ((Labour.begun maxAlarms start).after readings)) ?_ ?_ worked
  · rintro before now event next ⟨readings, keepsUp⟩ reacted
    rcases keepsUp_react before next now _ keepsUp
      (before.react_effect next now event reacted) with still | ⟨reading, further⟩
    · exact ⟨readings, still⟩
    · refine ⟨readings ++ [reading], ?_⟩
      rwa [Labour.after, List.foldl_append]
  · exact ⟨[], rfl, rfl, rfl⟩

end Workshop

namespace Labour

theorem steps_after (labour : Labour) (readings : List (Timestamp × Timestamp)) :
    (labour.after readings).producer.steps =
      labour.producer.steps + readings.length := by
  induction readings generalizing labour with
  | nil => rfl
  | cons reading rest ih =>
      refine (ih (labour.step reading)).trans ?_
      simp only [step, Producer.next, List.length_cons]
      omega

/-- A producer that alone writes a store takes its pool through its life cycle, for
every size of the pool and every store to begin with.  This holds after any number
of steps that a word of 64 bits counts, whatever the clock shows, and also where
the listeners and callers of a hub come between the actions of its steps. -/
theorem pools_live_in_cycles (maxAlarms : UInt32) (start : AlarmStore) :
    (∀ readings : List (Timestamp × Timestamp),
      readings.length < UInt64.size →
        ((begun maxAlarms start).after readings).producer.steps =
          readings.length ∧
        ((begun maxAlarms start).after readings).Cycles maxAlarms start) ∧
    ∀ (hub : Hub) (events : List (Instant × WorkEvent)) (shop : Workshop),
      (Workshop.opened hub start (.create maxAlarms)).run events = some shop →
        shop.actions = [] → shop.producer.steps < UInt64.size →
          Cycles maxAlarms start
            ⟨shop.producer, shop.store, shop.announced.map Prod.snd⟩ := by
  constructor
  · intro readings few
    have steps := (begun maxAlarms start).steps_after readings
    have none : (begun maxAlarms start).producer.steps = 0 := rfl
    rw [none, Nat.zero_add] at steps
    refine ⟨steps, cycles_grown maxAlarms start _
      (grown_after maxAlarms start readings) ?_⟩
    rw [steps]
    exact few
  · intro hub events shop worked idle few
    obtain ⟨readings, producer, store, told⟩ :=
      Workshop.keepsUp_run hub maxAlarms start events shop worked
    rw [idle] at store told
    have same : (begun maxAlarms start).after readings =
        ⟨shop.producer, shop.store, shop.announced.map Prod.snd⟩ := by
      have told := told.trans (List.append_nil _)
      rw [← producer, ← told]
      exact congrArg (Labour.mk _ · _) store
    rw [← same]
    exact cycles_grown maxAlarms start _ (grown_after maxAlarms start readings)
      (by rw [same]; exact few)

/-- A first step, taken over a hub that has nobody to tell of it. -/
def unheardEvents : List (Instant × WorkEvent) :=
  [(.ofMillis 0, .step 70 71), (.ofMillis 0, .act), (.ofMillis 0, .act),
    (.ofMillis 0, .hub (.advance 0)), (.ofMillis 0, .hub (.advance 0))]

/-- Eight rounds of a pool of one: the alarm is created a second time. -/
theorem pools_live_in_cycles_reborn :
    (∃ labour, labour =
        (begun 0 .empty).after (List.replicate 8 (70, 71)) ∧
      labour.producer.visits 1 % 7 = 1 ∧
      labour.labels 1 = Producer.lifecycle.flatten ++ ["created"] ∧
      labour.Cycles 0 .empty) ∧
    ∃ shop,
      (Workshop.opened (.create .standard) .empty (.create 2)).run
        unheardEvents = some shop ∧
      shop.actions = [] ∧ shop.producer.steps = 1 ∧
      Cycles 2 .empty
        ⟨shop.producer, shop.store, shop.announced.map Prod.snd⟩ :=
  ⟨⟨_, rfl, by decide, by decide,
      ((pools_live_in_cycles 0 .empty).1 (List.replicate 8 (70, 71))
        (by decide)).2⟩,
    ⟨_, rfl, rfl, rfl, (pools_live_in_cycles 2 .empty).2 (.create .standard)
      unheardEvents _ rfl rfl (by decide)⟩⟩

end Labour
end AlarmRelay
