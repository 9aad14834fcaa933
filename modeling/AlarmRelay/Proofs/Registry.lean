import AlarmRelay.Hub.Script

/-!
# Distinct listeners

No listener stands in a registry twice, so a removal leaves none behind.  An add
and a removal do to the listeners what the calls of a script do.
-/

set_option autoImplicit false

namespace AlarmRelay

theorem Listener.isSame_iff (first second : Listener) :
    first.isSame second = true ↔ first.id = second.id := by
  simp [Listener.isSame]

namespace Registry

/-- No two listeners are the same. -/
def Distinct (registry : Registry) : Prop :=
  registry.listeners.Pairwise fun first second => first.isSame second = false

theorem contains_iff (registry : Registry) (listener : Listener) :
    registry.contains listener = true ↔
      ∃ other ∈ registry.listeners, other.isSame listener = true := by
  simp [contains]

theorem distinct_add (registry : Registry) (listener : Listener)
    (distinct : registry.Distinct) : (registry.add listener).Distinct := by
  unfold add
  split
  · exact distinct
  · rename_i absent
    rw [Distinct, List.pairwise_append]
    refine ⟨distinct, List.pairwise_singleton _ _, ?_⟩
    intro other member new same
    rw [List.mem_singleton.mp same, ← Bool.not_eq_true]
    intro twice
    exact absent ((registry.contains_iff listener).mpr ⟨other, member, twice⟩)

theorem distinct_remove (registry : Registry) (listener : Listener)
    (distinct : registry.Distinct) : (registry.remove listener).Distinct :=
  distinct.sublist List.eraseP_sublist

/-- A removed listener is gone. -/
theorem absent_remove (registry : Registry) (listener : Listener)
    (distinct : registry.Distinct) (other : Listener)
    (member : other ∈ (registry.remove listener).listeners) :
    other.isSame listener = false := by
  obtain ⟨lock, listeners⟩ := registry
  simp only [Distinct, remove] at distinct member
  induction listeners with
  | nil => cases member
  | cons head rest ih =>
      rw [List.pairwise_cons] at distinct
      cases here : head.isSame listener with
      | true =>
          simp only [List.eraseP_cons, here, cond_true] at member
          have apart := distinct.1 other member
          rw [← Bool.not_eq_true, Listener.isSame_iff] at apart ⊢
          rw [Listener.isSame_iff] at here
          exact fun same => apart (here.trans same.symm)
      | false =>
          simp only [List.eraseP_cons, here, cond_false, List.mem_cons] at member
          rcases member with same | later
          · rw [same]
            exact here
          · exact ih distinct.2 later

theorem add_members (registry : Registry) (listener : Listener) :
    (registry.add listener).listeners =
      (ScriptCall.subscribe listener).members registry.listeners := by
  unfold add contains
  simp only [ScriptCall.members]
  split <;> rfl

end Registry
end AlarmRelay
