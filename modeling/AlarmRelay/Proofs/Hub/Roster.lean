import AlarmRelay.Hub.Roster
import AlarmRelay.Proofs.Hub.Accounts
import AlarmRelay.Proofs.Hub.Line
import AlarmRelay.Proofs.Hub.Membership

/-!
# The listeners are the roster

An ordered set of identities that nothing but adds and removals changes: whatever
happens to a hub, its list of listeners is the roster of the adds and removals that
took effect, and each of them takes effect exactly when its identity allows.
-/

set_option autoImplicit false

namespace AlarmRelay

/-! ## Rosters -/

theorem Operation.effect?_plain (operation : Operation) (reply : Reply)
    (plain : operation.change? = none) : effect? (operation, reply) = none := by
  unfold effect?
  split
  · rename_i same
    cases same
    exact plain
  · rfl

namespace Script

theorem roster_append (first second : Script) :
    roster (first ++ second) =
      (roster first).filter
          (fun other => !second.any (ScriptCall.concerns other.id)) ++
        roster second := by
  induction first with
  | nil => rfl
  | cons call rest ih =>
      cases call with
      | subscribe listener =>
          simp only [List.cons_append, roster, ih, List.any_append]
          cases later : rest.any (ScriptCall.concerns listener.id) with
          | true => simp
          | false =>
              cases gone : second.any (ScriptCall.concerns listener.id) <;>
                simp [gone]
      | unsubscribe listener => simpa only [List.cons_append, roster] using ih
      | publish event => simpa only [List.cons_append, roster] using ih
      | snapshot scan => simpa only [List.cons_append, roster] using ih

end Script

namespace Registry

/-- The identities of the listeners differ. -/
theorem distinct_iff (registry : Registry) :
    registry.Distinct ↔ (registry.listeners.map Listener.id).Nodup := by
  simp only [Distinct, List.Nodup, List.pairwise_map, ← Bool.not_eq_true,
    Listener.isSame_iff, ne_eq]

theorem contains_iff_mem (registry : Registry) (listener : Listener) :
    registry.contains listener = true ↔
      listener.id ∈ registry.listeners.map Listener.id := by
  simp [contains_iff, Listener.isSame_iff]

/-- A removal takes every handle of the identity away and nothing else. -/
theorem remove_listeners (registry : Registry) (listener : Listener)
    (distinct : registry.Distinct) :
    (registry.remove listener).listeners =
      registry.listeners.filter fun other => other.id != listener.id := by
  obtain ⟨lock, listeners⟩ := registry
  simp only [Distinct, remove] at distinct ⊢
  induction listeners with
  | nil => rfl
  | cons head rest ih =>
      rw [List.pairwise_cons] at distinct
      by_cases here : head.id = listener.id
      · have others : ∀ other ∈ rest, (other.id != listener.id) = true := by
          intro other member
          have apart := distinct.1 other member
          rw [← Bool.not_eq_true, Listener.isSame_iff, here] at apart
          simpa using fun same => apart same.symm
        simp [Listener.isSame, here, List.filter_eq_self.mpr others]
      · have later := ih distinct.2
        simp_all [Listener.isSame]

theorem remove_absent (registry : Registry) (listener : Listener)
    (absent : registry.contains listener = false) :
    (registry.remove listener).listeners = registry.listeners := by
  apply List.eraseP_of_forall_not
  intro other member same
  have present := (registry.contains_iff listener).mpr ⟨other, member, same⟩
  rw [absent] at present
  cases present

end Registry

namespace Hub

/-! ## Names of operations -/

theorem inFlight_turn (hub : Hub) (event : HubEvent) (step : Progress)
    (turn : Turn hub step event) :
    step.hub.inFlight.Sublist hub.inFlight ∨
      step.hub.inFlight = hub.inFlight ++ [hub.nextOperation] := by
  cases turn with
  | rests _ same => exact Or.inl (by rw [alike_inFlight _ _ same])
  | asks request same =>
      exact Or.inr (by rw [alike_inFlight _ _ same, inFlight_begin])
  | stops loop owned same =>
      exact Or.inr (by rw [alike_inFlight _ _ same, inFlight_begin])
  | ticks loop first last live registry operations =>
      have names : step.hub.inFlight =
          (hub.begin (.tick .checking)).1.inFlight :=
        congrArg (List.map Prod.fst) operations
      exact Or.inr (by rw [names, inFlight_begin])
  | answers _ id operation registry reply drives found answer same =>
      refine Or.inl ?_
      rw [alike_inFlight _ _ same, inFlight_forget]
      exact List.filter_sublist
  | fails id outcome message found same =>
      refine Or.inl ?_
      rw [alike_inFlight _ _ same, inFlight_forget]
      exact List.filter_sublist
  | scans _ id drives found held somebody same =>
      refine Or.inl ?_
      rw [alike_inFlight _ _ same, inFlight_putOperation]
      exact List.Sublist.refl _
  | fetches id alarms found same =>
      refine Or.inl ?_
      rw [alike_inFlight _ _ same, inFlight_putOperation]
      exact List.Sublist.refl _
  | walks _ id operation next delivery drives found held before after same =>
      refine Or.inl ?_
      rw [alike_inFlight _ _ same, inFlight_putOperation]
  | hears id operation next delivery listener rest report outcome found before
      after same =>
      refine Or.inl ?_
      rw [alike_inFlight _ _ same, inFlight_putOperation]
  | drops id caller same =>
      refine Or.inl ?_
      rw [alike_inFlight _ _ same, inFlight_forget]
      exact List.filter_sublist
  | loses ids ticking same =>
      refine Or.inl ?_
      rw [alike_inFlight _ _ same]
      clear ticking same
      induction ids generalizing hub with
      | nil => exact List.Sublist.refl _
      | cons id rest ih =>
          refine (ih (hub.forget id)).trans ?_
          rw [inFlight_forget]
          exact List.filter_sublist

theorem nodup_turn (hub : Hub) (event : HubEvent) (step : Progress)
    (consistent : hub.Consistent) (distinct : hub.inFlight.Nodup)
    (turn : Turn hub step event) : step.hub.inFlight.Nodup := by
  rcases hub.inFlight_turn event step turn with fewer | grown
  · exact distinct.sublist fewer
  · have unborn : hub.nextOperation ∉ hub.inFlight := fun member =>
      Nat.lt_irrefl _ (consistent.named _ member)
    rw [grown]
    exact distinct.append (List.nodup_singleton _) (by simpa using unborn)

/-! ## Answers -/

/-- What one event answers: nothing, and the listeners stay, or one operation. -/
inductive Concludes (hub : Hub) (event : HubEvent) (step : Progress) : Prop where
  | nothing (unanswered : hub.answered event step = [])
      (same : step.hub.registry.listeners = hub.registry.listeners)
  | one (id : OperationId) (operation : Operation) (registry : Registry)
      (reply : Reply) (answer : Answer hub id operation registry reply)
      (answered : hub.answered event step = [(operation, reply)])
      (listeners : step.hub.registry.listeners = registry.listeners)

section

variable (hub : Hub) (event : HubEvent) (step : Progress)

theorem answered_one (consistent : hub.Consistent)
    (distinct : hub.inFlight.Nodup) (id : OperationId) (operation : Operation)
    (registry : Registry) (reply : Reply)
    (found : hub.operation? id = some operation)
    (answer : Answer hub id operation registry reply)
    (same : step.hub.Alike ({ hub with registry := registry }.forget id))
    (replied : step.reply = some reply) : Concludes hub event step := by
  obtain ⟨first, last, split, _, forgotten, absent⟩ :=
    hub.operation_split id operation distinct found
  have remaining : step.hub.operations = first ++ last :=
    same.operations.trans forgotten
  have page := hub.page_ends event step consistent id operation reply first last
    split remaining absent replied
  refine .one id operation registry reply answer (congrArg Page.answered page) ?_
  rw [same.registry]
  rfl

theorem turn_answered (consistent : hub.Consistent)
    (distinct : hub.inFlight.Nodup) (turn : Turn hub step event) :
    Concludes hub event step := by
  cases replied : step.reply with
  | none =>
      refine .nothing (by simp only [answered, replied]) ?_
      exact hub.turn_listeners event step turn fun _ _ _ _ _ _ => replied
  | some reply =>
      cases turn with
      | rests _ same =>
          refine .nothing (hub.answered_nil event step ?_) (by rw [same.registry])
          intro id member
          rw [alike_inFlight _ _ same]
          exact member
      | answers _ id operation registry told drives found answer same shown =>
          exact hub.answered_one event step consistent distinct id operation
            registry told found answer same shown
      | fails id outcome message found same shown =>
          exact hub.answered_one _ step consistent distinct id _ hub.registry _
            found (.fails message) same shown
      | asks _ _ silent | stops _ _ _ silent | drops _ _ _ silent
      | loses _ _ _ silent | fetches _ _ _ _ silent =>
          rw [silent] at replied
          cases replied
      | ticks _ _ _ _ _ _ _ _ _ _ silent | scans _ _ _ _ _ _ _ silent
      | walks _ _ _ _ _ _ _ _ _ _ _ silent
      | hears _ _ _ _ _ _ _ _ _ _ _ _ silent =>
          rw [silent] at replied
          cases replied

/-! ## What changes the listeners -/

/-- An answered add found its identity absent, or changed nothing. -/
theorem answered_add (answered : Concludes hub event step) (listener : Listener)
    (reply : Reply) (told : (.add listener, reply) ∈ hub.answered event step) :
    reply = .flag (!hub.identities.contains listener.id) ∧
      step.hub.registry.listeners =
        if listener.id ∈ hub.identities then hub.registry.listeners
        else hub.registry.listeners ++ [listener] := by
  cases answered with
  | nothing unanswered =>
      rw [unanswered] at told
      cases told
  | one id operation registry shown answer alone listeners =>
      rw [alone, List.mem_singleton] at told
      cases told
      cases answer with
      | joins _ held =>
          have known := hub.registry.contains_iff_mem listener
          rw [listeners, Registry.add]
          cases present : hub.registry.contains listener with
          | true =>
              have member := known.mp present
              simp [identities, member]
          | false =>
              have absent := mt known.mpr (by simp [present])
              simp [identities, absent]
      | reads _ _ _ read => cases read
      | ends _ _ _ _ before => cases before

/-- An answered removal found its identity present, or changed nothing. -/
theorem answered_remove (answered : Concludes hub event step)
    (distinct : hub.registry.Distinct) (listener : Listener) (reply : Reply)
    (told : (.remove listener, reply) ∈ hub.answered event step) :
    reply = .flag (hub.identities.contains listener.id) ∧
      step.hub.registry.listeners =
        if listener.id ∈ hub.identities then
          hub.registry.listeners.filter fun other => other.id != listener.id
        else hub.registry.listeners := by
  cases answered with
  | nothing unanswered =>
      rw [unanswered] at told
      cases told
  | one id operation registry shown answer alone listeners =>
      rw [alone, List.mem_singleton] at told
      cases told
      cases answer with
      | parts _ held =>
          have known := hub.registry.contains_iff_mem listener
          cases present : hub.registry.contains listener with
          | true =>
              have member := known.mp present
              rw [listeners, hub.registry.remove_listeners listener distinct]
              simp [identities, member]
          | false =>
              have absent := mt known.mpr (by simp [present])
              rw [listeners, hub.registry.remove_absent listener present]
              simp [identities, absent]
      | reads _ _ _ read => cases read
      | ends _ _ _ _ before => cases before

theorem answered_others (answered : Concludes hub event step)
    (others : ∀ entry ∈ hub.answered event step, entry.1.change? = none) :
    step.hub.registry.listeners = hub.registry.listeners := by
  cases answered with
  | nothing unanswered same => exact same
  | one id operation registry reply answer alone listeners =>
      rw [listeners]
      exact hub.answer_plain id operation registry reply answer
        (others (operation, reply) (by simp [alone]))

/-- The listeners stay the roster of what took effect. -/
theorem roster_step (answered : Concludes hub event step)
    (distinct : hub.registry.Distinct) (past : List (Operation × Reply))
    (roster : hub.registry.listeners =
      Script.roster (past.filterMap Operation.effect?)) :
    step.hub.registry.listeners = Script.roster
      ((past ++ hub.answered event step).filterMap Operation.effect?) := by
  cases answered with
  | nothing unanswered same =>
      rw [unanswered, List.append_nil, same, roster]
  | one id operation registry reply answer alone listeners =>
      rw [alone, List.filterMap_append, listeners]
      -- Refused calls and calls that are about no listener have no effect.
      have idle : Operation.effect? (operation, reply) = none →
          registry.listeners = hub.registry.listeners →
            registry.listeners = Script.roster (past.filterMap Operation.effect?
              ++ [(operation, reply)].filterMap Operation.effect?) := by
        intro without same
        rw [List.filterMap_cons_none without, List.filterMap_nil,
          List.append_nil, same, roster]
      cases answer with
      | joins listener held =>
          cases present : hub.registry.contains listener with
          | true =>
              rw [present] at idle
              exact idle rfl (by simp [Registry.add, present])
          | false =>
              have absent : ∀ other ∈ hub.registry.listeners,
                  (!(listener.id == other.id)) = true := by
                intro other member
                have apart := mt (hub.registry.contains_iff_mem listener).mpr
                  (by simp [present])
                simpa using fun same =>
                  apart (List.mem_map.mpr ⟨other, member, Eq.symm same⟩)
              rw [Script.roster_append, ← roster]
              simp [Operation.effect?, Operation.change?, Registry.add, present,
                Script.roster, ScriptCall.concerns,
                List.filter_eq_self.mpr absent]
      | parts listener held =>
          cases present : hub.registry.contains listener with
          | true =>
              rw [Script.roster_append, ← roster,
                hub.registry.remove_listeners listener distinct]
              simp [Operation.effect?, Operation.change?, Script.roster,
                ScriptCall.concerns, bne, Bool.beq_comm]
          | false =>
              rw [present] at idle
              exact idle rfl (hub.registry.remove_absent listener present)
      | reads _ _ held read =>
          have plain := operation.change?_read _ reply read
          exact idle (Operation.effect?_plain _ _ plain) rfl
      | exits loop isOver => exact idle rfl rfl
      | ends _ delivery report _ before reported =>
          have plain := operation.change?_shared
            (operation.lockSide?_fanOut delivery _ before)
          exact idle (Operation.effect?_plain _ _ plain) rfl
      | fails message => exact idle rfl rfl

end

/-- How the listeners of a hub follow from the changes that took effect. -/
structure Rostered (hub : Hub) (effects : Script) : Prop where
  /-- No identity is registered twice. -/
  distinct : hub.identities.Nodup
  /-- Registered are the listeners whose last change is an add, in the order of
  these adds. -/
  roster : hub.registry.listeners = effects.roster
  /-- An add answers whether its identity was absent, and joins it at the end. -/
  adds : ∀ now event step listener reply, hub.react now event = some step →
    (.add listener, reply) ∈ hub.answered event step →
      reply = .flag (!hub.identities.contains listener.id) ∧
        step.hub.registry.listeners =
          if listener.id ∈ hub.identities then hub.registry.listeners
          else hub.registry.listeners ++ [listener]
  /-- A removal answers whether its identity was present, and takes it out. -/
  removes : ∀ now event step listener reply, hub.react now event = some step →
    (.remove listener, reply) ∈ hub.answered event step →
      reply = .flag (hub.identities.contains listener.id) ∧
        step.hub.registry.listeners =
          if listener.id ∈ hub.identities then
            hub.registry.listeners.filter fun other => other.id != listener.id
          else hub.registry.listeners
  /-- Nothing else changes the listeners. -/
  others : ∀ now event step, hub.react now event = some step →
    (∀ entry ∈ hub.answered event step, entry.1.change? = none) →
      step.hub.registry.listeners = hub.registry.listeners

/-- Along every run names are given once, nobody is registered twice, and the
listeners are the roster. -/
theorem rostered_run (config : HubConfig) (timeline : Timeline) (hub : Hub)
    (reached : (create config).run timeline = some hub) :
    hub.Consistent ∧ hub.inFlight.Nodup ∧ hub.registry.Distinct ∧
      hub.registry.listeners = ((create config).effects timeline).roster := by
  refine @observe_induction _ answered
    (fun hub past => hub.Consistent ∧ hub.inFlight.Nodup ∧
      hub.registry.Distinct ∧ hub.registry.listeners =
        Script.roster (past.filterMap Operation.effect?)) ?_ _ _ _ []
    ⟨consistent_create config, List.nodup_nil, distinct_create config, rfl⟩
    reached
  rintro before now event step past ⟨consistent, names, distinct, roster⟩ reacted
  have turn := before.react_turn now event step reacted
  have answered := before.turn_answered event step consistent names turn
  exact ⟨before.consistent_turn event step consistent turn,
    before.nodup_turn event step consistent names turn,
    before.distinct_react now event step distinct reacted,
    before.roster_step event step answered distinct past roster⟩

/-- Whatever happens to a hub, its listeners are an ordered set of identities that
only adds and removals change. -/
theorem listeners_keep_roster (config : HubConfig) (timeline : Timeline)
    (hub : Hub) (reached : (create config).run timeline = some hub) :
    hub.Rostered ((create config).effects timeline) := by
  obtain ⟨consistent, names, distinct, roster⟩ :=
    rostered_run config timeline hub reached
  have answered : ∀ now event step, hub.react now event = some step →
      Concludes hub event step := fun now event step reacted =>
    hub.turn_answered event step consistent names
      (hub.react_turn now event step reacted)
  constructor
  · exact hub.registry.distinct_iff.mp distinct
  · exact roster
  · intro now event step listener reply reacted
    exact hub.answered_add event step (answered now event step reacted) listener
      reply
  · intro now event step listener reply reacted
    exact hub.answered_remove event step (answered now event step reacted)
      distinct listener reply
  · intro now event step reacted
    exact hub.answered_others event step (answered now event step reacted)

/-- Two listeners of one name join; the first is refused a second time, leaves
during a fan-out that fails, joins again behind the other, and the owner starts and
stops the scheduler in between. -/
def namesakeTimeline : Timeline :=
  [(⟨0⟩, .ask (.subscribe ⟨1, "pager"⟩)), (⟨0⟩, .advance 0),
    (⟨0⟩, .ask (.subscribe ⟨2, "pager"⟩)), (⟨0⟩, .advance 1),
    (⟨0⟩, .ask (.subscribe ⟨1, "pager"⟩)), (⟨0⟩, .advance 2),
    (⟨1⟩, .ask (.publish (.deleted 7 "disk"))), (⟨1⟩, .advance 3),
    (⟨1⟩, .ask (.unsubscribe ⟨1, "pager"⟩)), (⟨1⟩, .start true),
    (⟨2⟩, .answerCall 3 (.panicked .other)),
    (⟨2⟩, .answerCall 3 (.failed (.rejected "full"))), (⟨2⟩, .advance 3),
    (⟨2⟩, .advance 4), (⟨2⟩, .ask (.unsubscribe ⟨3, "pager"⟩)),
    (⟨2⟩, .advance 5), (⟨3⟩, .stop),
    (⟨3⟩, .ask (.subscribe ⟨1, "pager"⟩)), (⟨3⟩, .advance 7)]

theorem listeners_keep_roster_namesakes :
    ∃ hub, (create .standard).run namesakeTimeline = some hub ∧
      hub.identities = [2, 1] ∧
      (create .standard).effects namesakeTimeline =
        [.subscribe ⟨1, "pager"⟩, .subscribe ⟨2, "pager"⟩,
          .unsubscribe ⟨1, "pager"⟩, .subscribe ⟨1, "pager"⟩] ∧
      hub.Rostered ((create .standard).effects namesakeTimeline) :=
  ⟨_, rfl, by decide, by decide,
    listeners_keep_roster .standard namesakeTimeline _ rfl⟩

end Hub
end AlarmRelay
