import AlarmRelay.Producer.Shift
import AlarmRelay.Proofs.Store

/-!
# Announcements say what was written

A view that takes in what some actions announce changes as the store does that the
actions write.  This holds of every part of a producer's step, and so of the step.
-/

set_option autoImplicit false

namespace AlarmRelay

namespace ProducerAction

/-- What some actions make of a store. -/
def applyAll (store : AlarmStore) (actions : List ProducerAction) :
    AlarmStore :=
  actions.foldl applyTo store

/-- The actions announce exactly what they write. -/
def Announced (actions : List ProducerAction) : Prop :=
  ∀ store : AlarmStore,
    store.follow (deliveries actions) = applyAll store actions

theorem deliveries_append (first second : List ProducerAction) :
    deliveries (first ++ second) = deliveries first ++ deliveries second := by
  simp [deliveries]

theorem announced_append (first second : List ProducerAction)
    (left : Announced first) (right : Announced second) :
    Announced (first ++ second) := by
  intro store
  have before : store.follow (deliveries first) = applyAll store first :=
    left store
  rw [deliveries_append, AlarmStore.follow_append, before, right]
  simp [applyAll]

theorem announced_note (record : LogRecord) : Announced [.note record] :=
  fun _ => rfl

theorem announced_deletion (id : AlarmId) (reductionKey : String) :
    Announced [.erase id, .announce (.deleted id reductionKey)] :=
  fun _ => rfl

end ProducerAction

namespace Producer

open ProducerAction

theorem deliveries_change (alarm : Alarm) (kinds : List ContentKind) :
    deliveries (change alarm kinds) =
      List.replicate kinds.length (.upsert alarm) := by
  induction kinds with
  | nil => rfl
  | cons kind rest ih => exact congrArg (Delivery.upsert alarm :: ·) ih

theorem applyAll_change (store : AlarmStore) (alarm : Alarm)
    (kinds : List ContentKind) :
    applyAll store (change alarm kinds) = store.upsert alarm := by
  have still : ∀ kept : AlarmStore, applyAll kept
      (kinds.map fun kind => .announce (.content kind alarm)) = kept := by
    intro kept
    induction kinds with
    | nil => rfl
    | cons kind rest ih => exact ih
  exact still (store.upsert alarm)

/-- A change that is announced at all is announced as it was written. -/
theorem announced_change (alarm : Alarm) (kind : ContentKind)
    (kinds : List ContentKind) : Announced (change alarm (kind :: kinds)) := by
  intro store
  rw [deliveries_change, applyAll_change, List.length_cons,
    List.replicate_succ]
  exact store.follow_upserts alarm kinds.length

theorem announced_alter (now later : Timestamp) (round : Nat) (alarm : Alarm) :
    Announced (alter now later round alarm) := by
  unfold alter
  split
  · exact announced_change _ _ _
  · exact announced_change _ _ _
  · exact announced_change _ _ _
  · exact announced_change _ _ _
  · exact announced_change _ _ _
  · exact announced_change _ _ _
  · exact announced_append _ _ (announced_change _ _ _)
      (announced_deletion _ _)

/-- Every step announces what it writes, over every store. -/
theorem announced_plan (now later : Timestamp) (store : AlarmStore)
    (producer : Producer) : Announced (producer.plan now later store) := by
  unfold plan
  split
  · exact announced_change _ _ _
  · exact announced_append _ _ (announced_alter _ _ _ _) (announced_note _)

end Producer
end AlarmRelay
