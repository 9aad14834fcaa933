import AlarmRelay.Proofs.Hub.Heard
import AlarmRelay.Proofs.Hub.Membership
import AlarmRelay.Proofs.Producer.Announced

/-!
# Views that follow a producer

A producer announces what it writes, and a registered listener is handed every
announcement.  So the view of a listener that accepts every call follows the store
from turn to turn, whatever the other listeners answer, and no snapshot is needed
for that.
-/

set_option autoImplicit false

namespace AlarmRelay

/-! ## Histories -/

namespace History

theorem timeline_append (first second : History) :
    timeline (first ++ second) = timeline first ++ timeline second :=
  List.filterMap_append

@[simp] theorem timeline_ofTimeline (events : Timeline) :
    (ofTimeline events).timeline = events := by
  induction events with
  | nil => rfl
  | cons entry rest ih => exact congrArg (entry :: ·) ih

theorem store_append (start : AlarmStore) (first second : History) :
    (first ++ second).store start = second.store (first.store start) := by
  induction first generalizing start with
  | nil => rfl
  | cons entry rest ih =>
      obtain ⟨now, event⟩ := entry
      cases event <;> exact ih _

@[simp] theorem store_ofTimeline (start : AlarmStore) (events : Timeline) :
    (ofTimeline events).store start = start := by
  induction events with
  | nil => rfl
  | cons entry rest ih => exact ih

end History

/-! ## What turns tell and write -/

namespace ProducerTurn

/-- What some turns hand to each listener that is registered all along. -/
def told (store : AlarmStore) (producer : Producer) :
    List ProducerTurn → List Delivery
  | [] => []
  | .step now later :: rest =>
      let plan := producer.plan now later store
      ProducerAction.deliveries plan
        ++ told (ProducerAction.applyAll store plan) producer.next rest
  | .snapshot :: rest => [.snapshot store.scan] ++ told store producer rest
  | .subscribe _ :: rest | .unsubscribe _ :: rest => told store producer rest

/-- What some turns make of the store. -/
def stored (store : AlarmStore) (producer : Producer) :
    List ProducerTurn → AlarmStore
  | [] => store
  | .step now later :: rest =>
      let plan := producer.plan now later store
      stored (ProducerAction.applyAll store plan) producer.next rest
  | .snapshot :: rest | .subscribe _ :: rest | .unsubscribe _ :: rest =>
      stored store producer rest

end ProducerTurn

/-- No delivery is a snapshot. -/
def Delivery.Incremental (deliveries : List Delivery) : Prop :=
  ∀ delivery ∈ deliveries, ∀ alarms, delivery ≠ .snapshot alarms

theorem ProducerAction.incremental_deliveries
    (actions : List ProducerAction) :
    Delivery.Incremental (deliveries actions) := by
  intro delivery member alarms equal
  obtain ⟨action, _, announced⟩ := List.mem_filterMap.mp member
  obtain ⟨event, _, ofEvent⟩ := Option.map_eq_some_iff.mp announced
  cases event <;> cases equal.symm.trans ofEvent.symm

theorem ProducerAction.sorted_applyAll (store : AlarmStore)
    (actions : List ProducerAction) (sorted : store.Sorted) :
    (applyAll store actions).Sorted := by
  induction actions generalizing store with
  | nil => exact sorted
  | cons action rest ih =>
      cases action with
      | write alarm => exact ih _ (store.sorted_upsert alarm sorted)
      | erase id => exact ih _ (store.sorted_remove id sorted)
      | announce event => exact ih store sorted
      | note record => exact ih store sorted

/-! ## What a call hands to one listener -/

namespace ScriptCall

/-- What a call hands to each listener. -/
def told : ScriptCall → List Delivery
  | .publish event => [.ofEvent event]
  | .snapshot (.alarms alarms) => [.snapshot alarms]
  | _ => []

/-- Whether a call leaves a listener registered. -/
def keeps (listener : Listener) : ScriptCall → Bool
  | .unsubscribe other => !other.isSame listener
  | _ => true

theorem handed_told (members : List Listener) (call : ScriptCall) :
    call.handed members =
      call.told.flatMap fun delivery =>
        members.map fun listener => (listener, delivery) := by
  cases call with
  | publish event => cases event <;> simp [handed, told, Delivery.ofEvent]
  | snapshot scan => cases scan <;> simp [handed, told]
  | _ => rfl

theorem members_keeps (before : List Listener) (listener : Listener)
    (call : ScriptCall) (kind : call.keeps listener = true)
    (registered : ∃ other ∈ before, other.isSame listener = true) :
    ∃ other ∈ call.members before, other.isSame listener = true := by
  obtain ⟨other, member, same⟩ := registered
  cases call with
  | subscribe joining =>
      simp only [members]
      split
      · exact ⟨other, member, same⟩
      · exact ⟨other, List.mem_append_left _ member, same⟩
  | unsubscribe parting =>
      refine ⟨other, ?_, same⟩
      have apart : other.isSame parting = false := by
        simp only [keeps, Bool.not_eq_true'] at kind
        rw [← Bool.not_eq_true, Listener.isSame_iff] at kind ⊢
        rw [Listener.isSame_iff] at same
        exact fun equal => kind (equal.symm.trans same)
      exact (List.mem_eraseP_of_neg (by simp [apart])).mpr member
  | _ => exact ⟨other, member, same⟩

/-- Whoever subscribes is a member afterwards. -/
theorem members_joined (before : List Listener) (listener : Listener) :
    ∃ other ∈ (ScriptCall.subscribe listener).members before,
      other.isSame listener = true := by
  simp only [members]
  split
  · rename_i known
    exact List.any_eq_true.mp known
  · exact ⟨listener, List.mem_append_right _ List.mem_cons_self,
      listener.isSame_iff listener |>.mpr rfl⟩

end ScriptCall

/-- A listener that is registered once is handed a delivery once. -/
theorem Mark.addressed_once (listener : Listener) (members : List Listener)
    (delivery : Delivery)
    (distinct : members.Pairwise fun first second =>
      first.isSame second = false)
    (registered : ∃ other ∈ members, other.isSame listener = true) :
    addressed listener (members.map fun other => (other, delivery)) =
      [delivery] := by
  have nobody : ∀ others : List Listener,
      (∀ other ∈ others, other.isSame listener = false) →
        addressed listener (others.map fun other => (other, delivery)) = [] := by
    intro others absent
    simp only [addressed, List.filterMap_map, List.filterMap_eq_nil_iff]
    intro other member
    simp [absent other member]
  induction members with
  | nil => simp at registered
  | cons head rest ih =>
      obtain ⟨apart, others⟩ := List.pairwise_cons.mp distinct
      by_cases same : head.isSame listener = true
      · have absent : ∀ other ∈ rest, other.isSame listener = false := by
          intro other member
          have differs := apart other member
          rw [← Bool.not_eq_true, Listener.isSame_iff] at differs ⊢
          rw [Listener.isSame_iff] at same
          exact fun equal => differs (same.trans equal.symm)
        have none := nobody rest absent
        simp only [addressed] at none ⊢
        simp [same, none]
      · obtain ⟨other, member, equal⟩ := registered
        have later : other ∈ rest := by
          rcases List.mem_cons.mp member with rfl | later
          · exact absurd equal same
          · exact later
        have found := ih others ⟨other, later, equal⟩
        simp only [addressed] at found ⊢
        simp [same, found]

namespace Hub

/-! ## Turns one by one -/

/-- A hub at rest in which a listener is registered. -/
structure Hosts (hub : Hub) (listener : Listener) : Prop where
  resting : hub.Resting
  distinct : hub.registry.Distinct
  registered : ∃ other ∈ hub.registry.listeners, other.isSame listener = true

theorem plays_run (hub final : Hub) (script : Script) (timeline : Timeline)
    (plays : hub.Plays script timeline final) :
    hub.run timeline = some final := by
  induction plays with
  | done hub => rfl
  | call hub call rest now events later served final serving answered onward
      ih => exact (run_append _ _ _ _).mpr ⟨served, serving.reached, ih⟩

theorem distinct_plays (hub final : Hub) (script : Script)
    (timeline : Timeline) (distinct : hub.registry.Distinct)
    (plays : hub.Plays script timeline final) : final.registry.Distinct :=
  run_induction
    (fun before now event step kept reacted =>
      before.distinct_react now event step kept reacted)
    distinct (hub.plays_run final script timeline plays)

section

variable (hub served : Hub) (listener : Listener) (call : ScriptCall)
  (timeline : Timeline) (hosts : hub.Hosts listener)
  (plays : hub.Plays [call] timeline served)

include hosts plays

theorem hosts_call (kind : call.keeps listener = true) :
    served.Hosts listener where
  resting := (hub.plays_played served [call] timeline hosts.resting plays).resting
  distinct := hub.distinct_plays served [call] timeline hosts.distinct plays
  registered := by
    have played := hub.plays_played served [call] timeline hosts.resting plays
    rw [played.members]
    exact call.members_keeps _ listener kind hosts.registered

theorem accepted_call
    (accepts : Mark.Accepts listener (hub.journal timeline)) :
    Mark.accepted listener (hub.journal timeline) = call.told := by
  have played := hub.plays_played served [call] timeline hosts.resting plays
  have handed : Mark.handed (hub.journal timeline) =
      call.handed hub.registry.listeners := by
    simpa [Script.handed] using played.handed
  rw [Mark.accepted_heard listener _ accepts,
    hub.plays_heard served [call] timeline hosts.resting plays, handed,
    call.handed_told]
  have once := fun delivery => Mark.addressed_once listener
    hub.registry.listeners delivery hosts.distinct hosts.registered
  cases told : call.told with
  | nil => rfl
  | cons delivery rest =>
      have single : rest = [] := by
        cases call with
        | snapshot scan =>
            cases scan <;> cases told
            rfl
        | _ => cases told <;> rfl
      rw [single, List.flatMap_singleton]
      exact once delivery

end

/-- What the performance of some actions has done for a listener. -/
structure Performed (hub : Hub) (listener : Listener)
    (actions : List ProducerAction) (history : History) (final : Hub) :
    Prop where
  reached : hub.run history.timeline = some final
  hosts : final.Hosts listener
  store : ∀ start : AlarmStore,
    history.store start = ProducerAction.applyAll start actions
  accepted : Mark.Accepts listener (hub.journal history.timeline) →
    Mark.accepted listener (hub.journal history.timeline) =
      ProducerAction.deliveries actions

theorem performs_performed (hub final : Hub) (listener : Listener)
    (actions : List ProducerAction) (history : History)
    (hosts : hub.Hosts listener)
    (performs : hub.Performs actions history final) :
    hub.Performed listener actions history final := by
  induction performs with
  | done hub => exact ⟨rfl, hosts, fun _ => rfl, fun _ => rfl⟩
  | write hub now alarm rest history final onward ih =>
      have later := ih hosts
      exact ⟨later.reached, later.hosts, fun start => later.store _,
        later.accepted⟩
  | erase hub now id rest history final onward ih =>
      have later := ih hosts
      exact ⟨later.reached, later.hosts, fun start => later.store _,
        later.accepted⟩
  | announce hub event rest timeline history served final plays onward ih =>
      have later := ih (hub.hosts_call served listener _ timeline hosts plays rfl)
      have reached := hub.plays_run served _ timeline plays
      have journal := hub.journal_append served timeline history.timeline reached
      constructor
      · rw [History.timeline_append, History.timeline_ofTimeline]
        exact (run_append _ _ _ _).mpr ⟨served, reached, later.reached⟩
      · exact later.hosts
      · intro start
        rw [History.store_append, History.store_ofTimeline]
        exact later.store start
      · intro accepts
        rw [History.timeline_append, History.timeline_ofTimeline, journal]
          at accepts ⊢
        obtain ⟨first, others⟩ := (Mark.accepts_append _ _ _).mp accepts
        rw [Mark.accepted_append, later.accepted others,
          hub.accepted_call served listener _ timeline hosts plays first]
        rfl
  | note hub record rest history final onward ih =>
      have later := ih hosts
      exact ⟨later.reached, later.hosts, later.store, later.accepted⟩

/-- A listener that accepts every call accepts what the turns tell, and the store
becomes what they write. -/
theorem tends_tended (hub final : Hub) (listener : Listener)
    (store : AlarmStore) (producer : Producer) (turns : List ProducerTurn)
    (history : History) (hosts : hub.Hosts listener)
    (tends : hub.Tends store producer turns history final)
    (kept : ∀ turn ∈ turns, turn.keeps listener = true)
    (accepts : Mark.Accepts listener (hub.journal history.timeline)) :
    Mark.accepted listener (hub.journal history.timeline) =
        ProducerTurn.told store producer turns ∧
      history.store store = ProducerTurn.stored store producer turns := by
  induction tends with
  | done hub store producer => exact ⟨rfl, rfl⟩
  | step hub store producer now later turns history more served final performs
      onward ih =>
      have performed := hub.performs_performed served listener _ history hosts
        performs
      have journal := hub.journal_append served history.timeline more.timeline
        performed.reached
      rw [History.timeline_append, journal] at accepts ⊢
      obtain ⟨first, others⟩ := (Mark.accepts_append _ _ _).mp accepts
      obtain ⟨told, stored⟩ := ih performed.hosts
        (fun turn member => kept turn (List.mem_cons_of_mem _ member)) others
      rw [performed.store store] at told stored
      rw [Mark.accepted_append, performed.accepted first, told,
        History.store_append, performed.store store, stored]
      exact ⟨rfl, rfl⟩
  | call hub store producer turn call turns timeline more served final asks plays
      onward ih =>
      have kind : call.keeps listener = true := by
        have here := kept turn List.mem_cons_self
        cases turn <;> cases asks <;> exact here
      have hosting := hub.hosts_call served listener call timeline hosts plays
        kind
      have reached := hub.plays_run served _ timeline plays
      have journal := hub.journal_append served timeline more.timeline reached
      rw [History.timeline_append, History.timeline_ofTimeline, journal]
        at accepts ⊢
      obtain ⟨first, others⟩ := (Mark.accepts_append _ _ _).mp accepts
      obtain ⟨told, stored⟩ := ih hosting
        (fun turn member => kept turn (List.mem_cons_of_mem _ member)) others
      rw [Mark.accepted_append,
        hub.accepted_call served listener call timeline hosts plays first, told,
        History.store_append, History.store_ofTimeline, stored]
      cases turn <;> cases asks <;> exact ⟨rfl, rfl⟩

end Hub

/-! ## Views -/

namespace ProducerTurn

/-- A view that shows the store before some turns shows it after them. -/
theorem follow_told (store : AlarmStore) (producer : Producer)
    (turns : List ProducerTurn) (sorted : store.Sorted) :
    store.follow (told store producer turns) = stored store producer turns := by
  induction turns generalizing store producer with
  | nil => rfl
  | cons turn rest ih =>
      cases turn with
      | step now later =>
          -- What a step announces brings the view to where its writes bring the store.
          have announced := producer.announced_plan now later store store
          rw [told, AlarmStore.follow_append, announced]
          exact ih _ _ (ProducerAction.sorted_applyAll store _ sorted)
      | snapshot =>
          rw [told, AlarmStore.follow_append]
          have still : store.follow [.snapshot store.scan] = store :=
            store.ofAlarms_scan sorted
          rw [still]
          exact ih store producer sorted
      | subscribe listener => exact ih store producer sorted
      | unsubscribe listener => exact ih store producer sorted

/-- Unless somebody asks for a snapshot, nobody is told one. -/
theorem incremental_told (store : AlarmStore) (producer : Producer)
    (turns : List ProducerTurn)
    (calm : ∀ turn ∈ turns, turn.isSnapshot = false) :
    Delivery.Incremental (told store producer turns) := by
  induction turns generalizing store producer with
  | nil =>
      intro delivery member
      cases member
  | cons turn rest ih =>
      have onward := fun store producer => ih store producer
        (fun turn member => calm turn (List.mem_cons_of_mem _ member))
      cases turn with
      | step now later =>
          intro delivery member
          rcases List.mem_append.mp member with here | there
          · exact ProducerAction.incremental_deliveries _ delivery here
          · exact onward _ _ delivery there
      | snapshot => cases calm _ List.mem_cons_self
      | subscribe listener => exact onward store producer
      | unsubscribe listener => exact onward store producer

end ProducerTurn
end AlarmRelay
