import AlarmRelay.Producer.Workshop
import AlarmRelay.Proofs.Hub.Settled
import AlarmRelay.Proofs.Producer.Announced

/-!
# The store is written first

A step plans its writes and announcements so that each announcement, when its turn
comes, says what the store says (`backs_plan`).  The producer writes nothing while
an announcement is being fanned out, so this is still so whenever a listener is
called, however long the calls before it took.
-/

set_option autoImplicit false

namespace AlarmRelay

/-! ## Plans -/

namespace ProducerAction

/-- Taken in order over a store, the actions announce only what the store says
then. -/
def Backs (store : AlarmStore) (written : List Alarm) :
    List ProducerAction → Prop
  | [] => True
  | .write alarm :: rest =>
      Backs (store.upsert alarm) (alarm :: written) rest
  | .erase id :: rest => Backs (store.remove id) written rest
  | .announce event :: rest =>
      (Delivery.ofEvent event).IsBacked store written ∧
        Backs store written rest
  | .note _ :: rest => Backs store written rest

end ProducerAction

namespace Producer

open ProducerAction

theorem backs_change (store : AlarmStore) (written : List Alarm)
    (alarm : Alarm) (kinds : List ContentKind) (rest : List ProducerAction)
    (onward : Backs (store.upsert alarm) (alarm :: written) rest) :
    Backs store written (change alarm kinds ++ rest) := by
  have held : (store.upsert alarm).get? alarm.id = some alarm := by
    rw [AlarmStore.get?_upsert, if_pos rfl]
  have announced : Backs (store.upsert alarm) (alarm :: written)
      (kinds.map (fun kind => .announce (.content kind alarm)) ++ rest) := by
    induction kinds with
    | nil => exact onward
    | cons kind more ih => exact ⟨held, ih⟩
  exact announced

/-- An alarm that was stored last and then erased is announced with its own keys. -/
theorem backs_deletion (store : AlarmStore) (written : List Alarm)
    (alarm : Alarm) (rest : List ProducerAction)
    (onward : Backs (store.remove alarm.id) (alarm :: written) rest) :
    Backs store (alarm :: written)
      (.erase alarm.id :: .announce (.deletionOf alarm) :: rest) := by
  have gone : (store.remove alarm.id).get? alarm.id = none := by
    rw [AlarmStore.get?_remove, if_pos rfl]
  have last : ((alarm :: written).find? fun other => other.id == alarm.id) =
      some alarm := List.find?_cons_of_pos (by simp)
  exact ⟨⟨gone, by rw [last]; rfl⟩, onward⟩

theorem backs_alter (now later : Timestamp) (round : Nat) (alarm : Alarm)
    (store : AlarmStore) (written : List Alarm) (record : LogRecord) :
    Backs store written (alter now later round alarm ++ [.note record]) := by
  unfold alter
  split
  case h_7 =>
    rw [List.append_assoc]
    apply backs_change
    exact backs_deletion _ _ (alarm.setReductionKeyMemo none) _ trivial
  all_goals exact backs_change _ _ _ _ _ trivial

/-- Every step announces what the store says, over every store. -/
theorem backs_plan (now later : Timestamp) (store held : AlarmStore)
    (written : List Alarm) (producer : Producer) :
    Backs store written (producer.plan now later held) := by
  unfold plan
  split
  · have whole := backs_change store written (newborn now producer.target)
      [.created] [] trivial
    rwa [List.append_nil] at whole
  · exact backs_alter _ _ _ _ _ _ _

end Producer

/-! ## Workshops -/

namespace Workshop

theorem run_induction {motive : Workshop → Prop}
    (preserved : ∀ shop now event next, motive shop →
      shop.react now event = some next → motive next)
    {shop final : Workshop} {events : List (Instant × WorkEvent)}
    (start : motive shop) (reached : shop.run events = some final) :
    motive final := by
  induction events generalizing shop with
  | nil =>
      cases reached
      exact start
  | cons entry rest ih =>
      obtain ⟨now, event⟩ := entry
      obtain ⟨next, reacted, onward⟩ := Option.bind_eq_some_iff.mp reached
      exact ih (preserved shop now event next start reacted) onward

/-- What one event does to a workshop: a step is planned, one action of it is taken,
or something happens to the hub. -/
inductive Effect (now : Instant) (shop : Workshop) : Workshop → Prop where
  | plans (clock later : Timestamp) (free : shop.isWaiting = false)
      (idle : shop.actions = []) :
      Effect now shop { shop with
        producer := shop.producer.next
        actions := shop.producer.plan clock later shop.store }
  | writes (alarm : Alarm) (rest : List ProducerAction)
      (free : shop.isWaiting = false)
      (due : shop.actions = .write alarm :: rest) :
      Effect now shop { shop with
        store := shop.store.upsert alarm
        written := alarm :: shop.written
        actions := rest }
  | erases (id : AlarmId) (rest : List ProducerAction)
      (free : shop.isWaiting = false)
      (due : shop.actions = .erase id :: rest) :
      Effect now shop
        { shop with store := shop.store.remove id, actions := rest }
  | announces (event : AlarmEvent) (rest : List ProducerAction)
      (step : Progress) (free : shop.isWaiting = false)
      (due : shop.actions = .announce event :: rest)
      (reacted : shop.hub.react now (.ask (.publish event)) = some step) :
      Effect now shop { shop with
        hub := step.hub
        actions := rest
        awaited := some shop.hub.nextOperation
        announced := shop.announced ++ [(shop.hub.nextOperation, event)] }
  | notes (record : LogRecord) (rest : List ProducerAction)
      (due : shop.actions = .note record :: rest) :
      Effect now shop { shop with actions := rest }
  | passes (event : HubEvent) (step : Progress)
      (reacted : shop.hub.react now event = some step) :
      Effect now shop { shop with hub := step.hub }

theorem react_effect (shop next : Workshop) (now : Instant) (event : WorkEvent)
    (reacted : shop.react now event = some next) : Effect now shop next := by
  cases event with
  | step clock later =>
      simp only [react] at reacted
      split at reacted
      · cases reacted
      · rename_i free
        rw [Bool.or_eq_true, not_or] at free
        cases reacted
        exact .plans clock later (by simpa using free.1) (by simpa using free.2)
  | act =>
      simp only [react] at reacted
      split at reacted
      · cases reacted
      · rename_i free
        have free : shop.isWaiting = false := by simpa using free
        split at reacted
        · cases reacted
        · rename_i action rest due
          cases action with
          | write alarm =>
              cases reacted
              exact .writes alarm rest free due
          | erase id =>
              cases reacted
              exact .erases id rest free due
          | announce event =>
              obtain ⟨step, asked, rfl⟩ := Option.map_eq_some_iff.mp reacted
              exact .announces event rest step free due asked
          | note record =>
              cases reacted
              exact .notes record rest due
  | hub event =>
      obtain ⟨step, happened, rfl⟩ := Option.map_eq_some_iff.mp reacted
      exact .passes event step happened

/-- Every announcement that is still being fanned out says what the store says, and
so will those that the step under way has still to make. -/
structure Faithful (shop : Workshop) : Prop where
  consistent : shop.hub.Consistent
  named : ∀ entry ∈ shop.announced, entry.1 < shop.hub.nextOperation
  /-- The producer waits for each announcement before it goes on. -/
  awaited : ∀ entry ∈ shop.announced, entry.1 ∈ shop.hub.inFlight →
    shop.awaited = some entry.1
  carries : ∀ entry ∈ shop.announced, ∀ operation,
    shop.hub.operation? entry.1 = some operation →
      ∃ fanOut, operation.fanOut? = some (.ofEvent entry.2, fanOut)
  backed : ∀ entry ∈ shop.announced, entry.1 ∈ shop.hub.inFlight →
    (Delivery.ofEvent entry.2).IsBacked shop.store shop.written
  owes : ProducerAction.Backs shop.store shop.written shop.actions

section

variable (shop : Workshop) (now : Instant)

/-- While the producer does not wait, none of its announcements is in flight. -/
theorem announced_over (faithful : shop.Faithful)
    (free : shop.isWaiting = false) (entry : OperationId × AlarmEvent)
    (member : entry ∈ shop.announced) : entry.1 ∉ shop.hub.inFlight := by
  intro current
  have waiting : shop.isWaiting = true := by
    simp [isWaiting, faithful.awaited entry member current, current]
  rw [free] at waiting
  cases waiting

/-- Between two announcements the producer may change the store as it likes. -/
theorem faithful_written (faithful : shop.Faithful)
    (free : shop.isWaiting = false) (producer : Producer) (store : AlarmStore)
    (written : List Alarm) (actions : List ProducerAction)
    (owes : ProducerAction.Backs store written actions) :
    { shop with producer := producer, store := store, written := written,
                actions := actions }.Faithful where
  consistent := faithful.consistent
  named := faithful.named
  awaited := faithful.awaited
  carries := faithful.carries
  backed := fun entry member current =>
    absurd current (shop.announced_over faithful free entry member)
  owes := owes

/-- Whatever happens to the hub, no announcement that is over comes back. -/
theorem announced_react (faithful : shop.Faithful) (event : HubEvent)
    (step : Progress) (reacted : shop.hub.react now event = some step)
    (entry : OperationId × AlarmEvent) (member : entry ∈ shop.announced)
    (current : entry.1 ∈ step.hub.inFlight) : entry.1 ∈ shop.hub.inFlight :=
  shop.hub.flow_inFlight step.hub (shop.hub.react_flow now event step reacted)
    entry.1 (faithful.named entry member) current

theorem faithful_passes (faithful : shop.Faithful) (event : HubEvent)
    (step : Progress) (reacted : shop.hub.react now event = some step) :
    { shop with hub := step.hub }.Faithful where
  consistent := shop.hub.consistent_turn event step faithful.consistent
    (shop.hub.react_turn now event step reacted)
  named := by
    intro entry member
    have later := (shop.hub.flow_names step.hub
      (shop.hub.react_flow now event step reacted)).1
    exact Nat.lt_of_lt_of_le (faithful.named entry member) later
  awaited := fun entry member current => faithful.awaited entry member
    (shop.announced_react now faithful event step reacted entry member current)
  carries := fun entry member => shop.hub.carrying_react now event step entry.1 _
    faithful.consistent (faithful.named entry member)
    (faithful.carries entry member) reacted
  backed := fun entry member current => faithful.backed entry member
    (shop.announced_react now faithful event step reacted entry member current)
  owes := faithful.owes

theorem faithful_announces (faithful : shop.Faithful) (event : AlarmEvent)
    (rest : List ProducerAction) (step : Progress)
    (free : shop.isWaiting = false)
    (due : shop.actions = .announce event :: rest)
    (reacted : shop.hub.react now (.ask (.publish event)) = some step) :
    { shop with
      hub := step.hub
      actions := rest
      awaited := some shop.hub.nextOperation
      announced := shop.announced ++
        [(shop.hub.nextOperation, event)] }.Faithful := by
  have passed := shop.faithful_passes now faithful _ step reacted
  have gone : ∀ entry ∈ shop.announced, entry.1 ∉ step.hub.inFlight :=
    fun entry member current =>
      shop.announced_over faithful free entry member
        (shop.announced_react now faithful _ step reacted entry member current)
  obtain ⟨backed, owes⟩ : (Delivery.ofEvent event).IsBacked shop.store
      shop.written ∧ ProducerAction.Backs shop.store shop.written rest := by
    have owed := faithful.owes
    rwa [due] at owed
  have begun := shop.hub.ask_react now (.publish event) step reacted
  constructor
  case consistent => exact passed.consistent
  case owes => exact owes
  all_goals
    intro entry member
    rw [List.mem_append, List.mem_singleton] at member
    rcases member with old | rfl
  case named.inl => exact passed.named entry old
  case named.inr =>
    rw [begun]
    exact Nat.lt_succ_self _
  case awaited.inl => exact fun current => absurd current (gone entry old)
  case awaited.inr => exact fun _ => rfl
  case carries.inl => exact passed.carries entry old
  case carries.inr =>
    intro operation found
    rw [begun, Hub.operation?_begin, shop.hub.absent_of_unborn _
      faithful.consistent (Nat.le_refl _), Option.none_or, if_pos rfl] at found
    cases found
    exact ⟨.awaitingLock, rfl⟩
  case backed.inl => exact fun current => absurd current (gone entry old)
  case backed.inr => exact fun _ => backed

theorem faithful_react (faithful : shop.Faithful) (next : Workshop)
    (effect : Effect now shop next) : next.Faithful := by
  have owed := faithful.owes
  cases effect with
  | plans clock later free idle =>
      exact shop.faithful_written faithful free _ _ _ _
        (Producer.backs_plan _ _ _ _ _ _)
  | writes alarm rest free due =>
      rw [due] at owed
      exact shop.faithful_written faithful free _ _ _ _ owed
  | erases id rest free due =>
      rw [due] at owed
      exact shop.faithful_written faithful free _ _ _ _ owed
  | announces event rest step free due reacted =>
      exact shop.faithful_announces now faithful event rest step free due reacted
  | notes record rest due =>
      rw [due] at owed
      exact { faithful with owes := owed }
  | passes event step reacted =>
      exact shop.faithful_passes now faithful event step reacted

/-- Inside a listener call of an announcement the store says what is handed out. -/
theorem faithful_call (faithful : shop.Faithful) (id : OperationId)
    (event : AlarmEvent) (announced : (id, event) ∈ shop.announced)
    (listener : Listener) (delivery : Delivery)
    (inside : shop.hub.call? id = some (listener, delivery)) :
    delivery = .ofEvent event ∧ delivery.IsBacked shop.store shop.written := by
  obtain ⟨operation, rest, report, found, walks⟩ :=
    (shop.hub.call?_fanOut id listener delivery).mp inside
  obtain ⟨fanOut, carried⟩ := faithful.carries (id, event) announced operation
    found
  rw [walks] at carried
  cases carried
  have current := (shop.hub.mem_inFlight id).mpr ⟨operation, found⟩
  exact ⟨rfl, faithful.backed (id, event) announced current⟩

end

theorem faithful_opened (hub : Hub) (store : AlarmStore) (producer : Producer)
    (consistent : hub.Consistent) : (opened hub store producer).Faithful where
  consistent := consistent
  named := by intro entry member; cases member
  awaited := by intro entry member; cases member
  carries := by intro entry member; cases member
  backed := by intro entry member; cases member
  owes := trivial

theorem mem_of_lookup (announced : List (OperationId × AlarmEvent))
    (id : OperationId) (event : AlarmEvent)
    (found : announced.lookup id = some event) : (id, event) ∈ announced := by
  obtain ⟨before, after, split, _⟩ := List.lookup_eq_some_iff.mp found
  rw [split]
  exact List.mem_append_right _ List.mem_cons_self

/-- A call that begins in an event hands out what the store says. -/
theorem faithful_notified (shop : Workshop) (now : Instant) (event : WorkEvent)
    (faithful : shop.Faithful) (entry : Notification)
    (member : entry ∈ shop.notified now event) :
    entry.delivery = .ofEvent entry.event ∧
      entry.delivery.IsBacked entry.store entry.written := by
  cases event with
  | step clock later => cases member
  | act => cases member
  | hub event =>
      simp only [notified, List.mem_filterMap] at member
      obtain ⟨mark, marked, shown⟩ := member
      cases reacted : shop.hub.react now event with
      | none =>
          rw [reacted] at marked
          cases marked
      | some step =>
          rw [reacted] at marked
          cases mark with
          | began id listener delivery =>
              obtain ⟨announcement, found, rfl⟩ := Option.map_eq_some_iff.mp shown
              -- The event changes the hub only, so the store of the call is that
              -- of the workshop after it.
              exact faithful_call { shop with hub := step.hub }
                (shop.faithful_passes now faithful event step reacted) id
                announcement (mem_of_lookup _ id announcement found) listener
                delivery
                (shop.hub.mem_began event step id listener delivery marked)
          | _ => cases shown

theorem faithful_notifications (shop final : Workshop)
    (events : List (Instant × WorkEvent)) (faithful : shop.Faithful)
    (worked : shop.run events = some final) :
    ∀ entry ∈ shop.notifications events,
      entry.delivery = .ofEvent entry.event ∧
        entry.delivery.IsBacked entry.store entry.written := by
  induction events generalizing shop with
  | nil =>
      intro entry member
      cases member
  | cons head rest ih =>
      obtain ⟨now, event⟩ := head
      obtain ⟨next, reacted, onward⟩ := Option.bind_eq_some_iff.mp worked
      intro entry member
      simp only [notifications, reacted, List.mem_append] at member
      rcases member with here | later
      · exact shop.faithful_notified now event faithful entry here
      · exact ih next (shop.faithful_react now faithful next
          (shop.react_effect next now event reacted)) onward entry later

/-- The store is written before every notification of a step, of which listeners
are told one after the other. -/
structure WritesFirst (start : Workshop) (events : List (Instant × WorkEvent))
    (shop : Workshop) : Prop where
  /-- The store says what a call hands out when the call begins. -/
  begins : ∀ entry ∈ start.notifications events,
    entry.delivery = .ofEvent entry.event ∧
      entry.delivery.IsBacked entry.store entry.written
  /-- It still says so while the call is under way. -/
  lasts : ∀ id event, (id, event) ∈ shop.announced →
    ∀ listener delivery, shop.hub.call? id = some (listener, delivery) →
      delivery = .ofEvent event ∧ delivery.IsBacked shop.store shop.written

/-- Whatever listeners a hub has and however they answer, a producer that alone
writes a store has written every change to it when a listener is told of the
change: the alarm is there as it is handed out, and a deleted alarm is gone, under
the reduction key that it had last. -/
theorem notifications_follow_writes (config : HubConfig) (past : Timeline)
    (hub : Hub) (store : AlarmStore) (producer : Producer)
    (events : List (Instant × WorkEvent)) (shop : Workshop)
    (reached : (Hub.create config).run past = some hub)
    (worked : (opened hub store producer).run events = some shop) :
    WritesFirst (opened hub store producer) events shop := by
  have consistent := Hub.consistent_run config past hub reached
  have start := faithful_opened hub store producer consistent
  have faithful : shop.Faithful := run_induction
    (fun before now event next kept reacted => before.faithful_react now kept next
      (before.react_effect next now event reacted)) start worked
  exact ⟨faithful_notifications _ shop events start worked,
    shop.faithful_call faithful⟩

/-- A hub that notifies two listeners. -/
def audienceTimeline : Timeline :=
  [(.ofMillis 0, .ask (.subscribe ⟨1, "pager"⟩)), (.ofMillis 0, .advance 0),
    (.ofMillis 0, .ask (.subscribe ⟨2, "mirror"⟩)), (.ofMillis 0, .advance 1)]

/-- The last step in the life of the only alarm of a pool: two notifications, each
of which the first listener fails and the second one is still busy with while
somebody asks for a snapshot. -/
def farewellEvents : List (Instant × WorkEvent) :=
  [(.ofMillis 10, .step 70 71), (.ofMillis 10, .act), (.ofMillis 10, .act),
    (.ofMillis 10, .hub (.advance 2)),
    (.ofMillis 11, .hub (.answerCall 2 (.panicked .other))),
    (.ofMillis 12, .hub (.ask .snapshot)),
    (.ofMillis 13, .hub (.answerCall 2 .accepted)),
    (.ofMillis 13, .hub (.advance 2)), (.ofMillis 13, .act),
    (.ofMillis 13, .act), (.ofMillis 13, .hub (.advance 4)),
    (.ofMillis 14, .hub (.answerCall 4 (.panicked .other)))]

/-- The producer of that pool, its alarm having gone through six rounds. -/
def farewellProducer : Producer := ⟨1, 6, by decide⟩

theorem notifications_follow_writes_farewell :
    ∃ hub, (Hub.create .standard).run audienceTimeline = some hub ∧
      ∃ start, start = opened hub ⟨[Producer.newborn 7 1]⟩ farewellProducer ∧
      ∃ shop, start.run farewellEvents = some shop ∧
        (start.notifications farewellEvents).map (fun entry =>
          (entry.listener.name, entry.event.label, entry.store.size)) =
          [("pager", "reduction_key_memo_deleted", 1),
            ("mirror", "reduction_key_memo_deleted", 1),
            ("pager", "deleted", 0), ("mirror", "deleted", 0)] ∧
        WritesFirst start farewellEvents shop :=
  ⟨_, rfl, _, rfl, _, rfl, by decide,
    notifications_follow_writes .standard audienceTimeline _ _ _ farewellEvents _
      rfl rfl⟩

end Workshop
end AlarmRelay
