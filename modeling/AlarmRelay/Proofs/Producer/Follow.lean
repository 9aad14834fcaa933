import AlarmRelay.Proofs.Hub.Exclusion
import AlarmRelay.Proofs.Producer.Mirror

/-!
# A producer and its hub, whatever the listeners answer

Every list of turns can be taken to its end, whatever the listeners answer, and a
view that showed the store before the first turn shows it after the last.  To
mirror an empty store a listener needs no snapshot at all.
-/

set_option autoImplicit false

namespace AlarmRelay

namespace Hub

/-! ## Turns can be taken -/

theorem performs_exist (hub : Hub) (actions : List ProducerAction)
    (stream : Nat → CallOutcome) (resting : hub.Resting) :
    ∃ history final, hub.Performs actions history final ∧ final.Resting ∧
      hub.run history.timeline = some final ∧
      Mark.Heeds stream (hub.journal history.timeline) := by
  induction actions generalizing hub stream with
  | nil => exact ⟨[], hub, .done hub, resting, rfl, rfl⟩
  | cons action rest ih =>
      cases action with
      | write alarm =>
          obtain ⟨history, final, performs, rests, reached, heeds⟩ :=
            ih hub stream resting
          exact ⟨_, final, .write hub ⟨0⟩ alarm rest history final performs,
            rests, reached, heeds⟩
      | erase id =>
          obtain ⟨history, final, performs, rests, reached, heeds⟩ :=
            ih hub stream resting
          exact ⟨_, final, .erase hub ⟨0⟩ id rest history final performs,
            rests, reached, heeds⟩
      | announce event =>
          obtain ⟨timeline, served, plays, heedsFirst⟩ :=
            hub.plays_exist [.publish event] ⟨0⟩ stream resting
          have played := hub.plays_played served _ timeline resting plays
          have onward := hub.plays_run served _ timeline plays
          obtain ⟨history, final, performs, rests, reached, heeds⟩ := ih served
            (fun index => stream
              ((Mark.verdicts (hub.journal timeline)).length + index))
            played.resting
          refine ⟨_, final, .announce hub event rest timeline history served final
            plays performs, rests, ?_, ?_⟩
          · rw [History.timeline_append, History.timeline_ofTimeline]
            exact (run_append _ _ _ _).mpr ⟨served, onward, reached⟩
          · rw [History.timeline_append, History.timeline_ofTimeline,
              hub.journal_append served timeline _ onward]
            exact Mark.heeds_append stream _ _ heedsFirst heeds
      | note record =>
          obtain ⟨history, final, performs, rests, reached, heeds⟩ :=
            ih hub stream resting
          exact ⟨history, final, .note hub record rest history final performs,
            rests, reached, heeds⟩

theorem tends_exist (hub : Hub) (store : AlarmStore) (producer : Producer)
    (turns : List ProducerTurn) (stream : Nat → CallOutcome)
    (resting : hub.Resting) :
    ∃ history final, hub.Tends store producer turns history final ∧
      Mark.Heeds stream (hub.journal history.timeline) := by
  induction turns generalizing hub store producer stream with
  | nil => exact ⟨[], hub, .done hub store producer, rfl⟩
  | cons turn rest ih =>
      cases asks : turn.call? store with
      | none =>
          cases turn <;> try cases asks
          rename_i now later
          obtain ⟨history, served, performs, rests, onward, heedsFirst⟩ :=
            hub.performs_exist (producer.plan now later store) stream resting
          obtain ⟨more, final, tends, heeds⟩ := ih served (history.store store)
            producer.next (fun index => stream
              ((Mark.verdicts (hub.journal history.timeline)).length + index))
            rests
          refine ⟨_, final, .step hub store producer now later rest history more
            served final performs tends, ?_⟩
          rw [History.timeline_append,
            hub.journal_append served history.timeline _ onward]
          exact Mark.heeds_append stream _ _ heedsFirst heeds
      | some call =>
          obtain ⟨timeline, served, plays, heedsFirst⟩ :=
            hub.plays_exist [call] ⟨0⟩ stream resting
          have played := hub.plays_played served _ timeline resting plays
          have onward := hub.plays_run served _ timeline plays
          obtain ⟨more, final, tends, heeds⟩ := ih served store producer
            (fun index => stream
              ((Mark.verdicts (hub.journal timeline)).length + index))
            played.resting
          refine ⟨_, final, .call hub store producer turn call rest timeline more
            served final asks plays tends, ?_⟩
          rw [History.timeline_append, History.timeline_ofTimeline,
            hub.journal_append served timeline _ onward]
          exact Mark.heeds_append stream _ _ heedsFirst heeds

/-! ## Views -/

/-- A listener that subscribes first is handed what the later turns tell. -/
theorem tends_subscribed (hub final : Hub) (listener : Listener)
    (store : AlarmStore) (producer : Producer) (turns : List ProducerTurn)
    (history : History) (resting : hub.Resting)
    (distinct : hub.registry.Distinct)
    (tends : hub.Tends store producer (.subscribe listener :: turns) history
      final)
    (kept : ∀ turn ∈ turns, turn.keeps listener = true)
    (accepts : Mark.Accepts listener (hub.journal history.timeline)) :
    Mark.accepted listener (hub.journal history.timeline) =
        ProducerTurn.told store producer turns ∧
      history.store store = ProducerTurn.stored store producer turns := by
  cases tends with
  | call _ _ _ _ call _ timeline more served _ asks plays onward =>
      cases asks
      have played := hub.plays_played served _ timeline resting plays
      have reached := hub.plays_run served _ timeline plays
      have hosts : served.Hosts listener := by
        refine ⟨played.resting, hub.distinct_plays served _ timeline distinct plays,
          ?_⟩
        rw [played.members]
        exact ScriptCall.members_joined hub.registry.listeners listener
      have journal := hub.journal_append served timeline more.timeline reached
      rw [History.timeline_append, History.timeline_ofTimeline, journal]
        at accepts ⊢
      obtain ⟨first, others⟩ := (Mark.accepts_append _ _ _).mp accepts
      have nothing : Mark.accepted listener (hub.journal timeline) = [] := by
        rw [Mark.accepted_heard listener _ first,
          hub.plays_heard served _ timeline resting plays, played.handed]
        rfl
      rw [Mark.accepted_append, nothing, List.nil_append, History.store_append,
        History.store_ofTimeline]
      exact served.tends_tended final listener store producer turns more hosts
        onward kept others

/-- A producer that alone writes keeps the views of its hub's listeners up to
date. -/
theorem views_follow_producer (config : HubConfig) (past : Timeline) (hub : Hub)
    (reached : (create config).run past = some hub)
    (idle : hub.operations = []) (owned : hub.closed = false)
    (listener : Listener) (seeds : List Alarm) (producer : Producer) :
    (∀ turns stream, ∃ history final,
      hub.Tends (.ofAlarms seeds) producer turns history final ∧
        Mark.Heeds stream (hub.journal history.timeline)) ∧
    ((∃ other ∈ hub.registry.listeners, other.isSame listener = true) →
      ∀ turns history final,
        hub.Tends (.ofAlarms seeds) producer turns history final →
        (∀ turn ∈ turns, turn.keeps listener = true) →
        Mark.Accepts listener (hub.journal history.timeline) →
          AlarmStore.follow (.ofAlarms seeds)
              (Mark.accepted listener (hub.journal history.timeline)) =
            history.store (.ofAlarms seeds)) ∧
    (∀ turns history final,
      hub.Tends .empty producer (.subscribe listener :: turns) history final →
      (∀ turn ∈ turns, turn.keeps listener = true) →
      (∀ turn ∈ turns, turn.isSnapshot = false) →
      Mark.Accepts listener (hub.journal history.timeline) →
        AlarmStore.follow .empty
            (Mark.accepted listener (hub.journal history.timeline)) =
          history.store .empty ∧
        Delivery.Incremental
          (Mark.accepted listener (hub.journal history.timeline))) := by
  have consistent := consistent_run config past hub reached
  have resting := hub.resting_of_consistent consistent idle owned
  have distinct := distinct_run config past hub reached
  refine ⟨?_, ?_, ?_⟩
  · intro turns stream
    exact hub.tends_exist _ producer turns stream resting
  · intro registered turns history final tends kept accepts
    obtain ⟨told, stored⟩ := hub.tends_tended final listener _ producer turns
      history ⟨resting, distinct, registered⟩ tends kept accepts
    rw [told, stored]
    exact ProducerTurn.follow_told _ producer turns
      (AlarmStore.sorted_ofAlarms seeds)
  · intro turns history final tends kept calm accepts
    obtain ⟨told, stored⟩ := hub.tends_subscribed final listener _ producer turns
      history resting distinct tends kept accepts
    rw [told, stored]
    exact ⟨ProducerTurn.follow_told _ producer turns
      (AlarmStore.sorted_ofAlarms []),
      ProducerTurn.incremental_told _ producer turns calm⟩

/-- Two listeners, the second of which will panic over every call. -/
def attendedTimeline : Timeline :=
  [(⟨0⟩, .ask (.subscribe ⟨1, "pager"⟩)), (⟨0⟩, .advance 0),
    (⟨0⟩, .ask (.subscribe ⟨2, "broken"⟩)), (⟨0⟩, .advance 1)]

/-- How an event is played to a pager that accepts it and to a listener that
panics, by an operation named `id`. -/
def faultyPlay (id : OperationId) (event : AlarmEvent) : Timeline :=
  [(⟨1⟩, .ask (.publish event)), (⟨1⟩, .advance id),
    (⟨2⟩, .answerCall id .accepted), (⟨3⟩, .answerCall id (.panicked .other)),
    (⟨4⟩, .advance id)]

/-- The alarm of a pool of one in its last round. -/
def fadingAlarm : Alarm :=
  .raise 0 1 "link" "link:1" .cleared

/-- The last step writes the alarm, announces it, removes it and says so. -/
def farewellHistory : History :=
  (⟨0⟩, .write (.upsert fadingAlarm)) ::
    (History.ofTimeline
        (faultyPlay 2 (.content .reductionKeyMemoDeleted fadingAlarm)) ++
      (⟨0⟩, .write (.remove 1)) ::
        (History.ofTimeline (faultyPlay 3 (.deleted 1 "link:1")) ++ []))

theorem plays_faulty (hub served : Hub) (event : AlarmEvent)
    (reached : hub.run (faultyPlay hub.nextOperation event) = some served)
    (answered : hub.nextOperation ∉ served.inFlight) :
    hub.Plays [.publish event] (faultyPlay hub.nextOperation event) served := by
  refine .call hub (.publish event) [] ⟨1⟩ _ [] served served ⟨reached, ?_⟩
    answered (.done served)
  simp only [List.forall_mem_cons]
  exact ⟨.advance, .answerCall _, .answerCall _, .advance,
    fun _ member => absurd member List.not_mem_nil⟩

theorem views_follow_producer_farewell :
    ∃ hub final, (create .standard).run attendedTimeline = some hub ∧
      hub.Tends (.ofAlarms [fadingAlarm]) ⟨1, 6, by decide⟩ [.step 50 60]
        (farewellHistory ++ []) final ∧
      AlarmStore.follow (.ofAlarms [fadingAlarm])
          (Mark.accepted ⟨1, "pager"⟩
            (hub.journal (farewellHistory ++ []).timeline)) =
        AlarmStore.empty := by
  obtain ⟨hub, told, final, reached, idle, owned, known, named, announced, gone,
      again, removed, left, accepts⟩ :
      ∃ hub told final, (create .standard).run attendedTimeline = some hub ∧
        hub.operations = [] ∧ hub.closed = false ∧
        (∃ other ∈ hub.registry.listeners,
          other.isSame ⟨1, "pager"⟩ = true) ∧ hub.nextOperation = 2 ∧
        hub.run (faultyPlay 2 (.content .reductionKeyMemoDeleted fadingAlarm)) =
          some told ∧ 2 ∉ told.inFlight ∧ told.nextOperation = 3 ∧
        told.run (faultyPlay 3 (.deleted 1 "link:1")) = some final ∧
        3 ∉ final.inFlight ∧
        Mark.Accepts ⟨1, "pager"⟩
          (hub.journal (farewellHistory ++ []).timeline) :=
    ⟨_, _, _, rfl, rfl, rfl, by decide, rfl, rfl, by decide, rfl, rfl, by decide,
      by decide⟩
  have tends : hub.Tends (.ofAlarms [fadingAlarm]) ⟨1, 6, by decide⟩
      [.step 50 60] (farewellHistory ++ []) final := by
    refine .step _ _ _ _ _ _ _ _ _ _ ?_ (.done _ _ _)
    refine .write _ _ _ _ _ _ (.announce _ _ _ _ _ told _ ?_ (.erase _ _ _ _ _ _
      (.announce _ _ _ _ _ final _ ?_ (.note _ _ _ _ _ (.done _)))))
    · rw [← named] at announced gone ⊢
      exact hub.plays_faulty told _ announced gone
    · rw [← again] at removed left ⊢
      exact told.plays_faulty final _ removed left
  refine ⟨hub, final, reached, tends, ?_⟩
  have follows := (views_follow_producer .standard attendedTimeline hub reached
    idle owned ⟨1, "pager"⟩ [fadingAlarm] ⟨1, 6, by decide⟩).2.1 known _ _ _ tends
    (by decide) accepts
  rw [follows]
  rfl

end Hub
end AlarmRelay
