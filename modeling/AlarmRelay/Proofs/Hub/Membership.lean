import AlarmRelay.Proofs.Hub.Consistent
import AlarmRelay.Proofs.Registry

/-!
# Who is registered

Listeners join and leave only where an add or a removal answers, which needs the
exclusive side of the lock.  Nobody stands in the registry twice, and a listener
that is not registered stays out until one of its handles joins.
-/

set_option autoImplicit false

namespace AlarmRelay.Hub

/-- Listeners change only where an operation answers. -/
theorem turn_membership (hub : Hub) (event : HubEvent) (step : Progress)
    (turn : Turn hub step event) :
    step.hub.registry.listeners = hub.registry.listeners ∨
      ∃ id operation registry reply, Answer hub id operation registry reply ∧
        step.hub.registry.listeners = registry.listeners := by
  cases turn with
  | rests _ same idle unheard => exact Or.inl (by rw [same.registry])
  | asks request same silent =>
      exact Or.inl (by rw [same.registry, begin_listeners])
  | stops loop owned same silent =>
      exact Or.inl (by rw [same.registry, begin_listeners])
  | ticks loop first last live registry operations nextOperation before after
      idle silent =>
      exact Or.inl (by rw [registry, begin_listeners])
  | answers _ id operation registry reply drives found answer same replied =>
      refine Or.inr ⟨id, operation, registry, reply, answer, ?_⟩
      rw [same.registry]
      rfl
  | fails id outcome message found same replied =>
      exact Or.inl (by rw [same.registry]; rfl)
  | scans _ id drives found held somebody same silent =>
      exact Or.inl (by rw [same.registry]; rfl)
  | fetches id alarms found same silent =>
      exact Or.inl (by rw [same.registry]; rfl)
  | walks _ id operation next delivery drives found held before after same
      silent =>
      exact Or.inl (by rw [same.registry]; rfl)
  | hears id operation next delivery listener rest report outcome found before
      after same silent =>
      exact Or.inl (by rw [same.registry]; rfl)
  | drops id caller same silent =>
      exact Or.inl (by rw [same.registry]; rfl)
  | loses ids ticking same silent =>
      exact Or.inl (by rw [same.registry, listeners_forgotten])

/-- While somebody holds the shared side the listeners stay as they are. -/
theorem react_listeners (hub : Hub) (now : Instant) (event : HubEvent)
    (step : Progress) (id : OperationId) (consistent : hub.Consistent)
    (reads : id ∈ hub.registry.lock.readers)
    (reacted : hub.react now event = some step) :
    step.hub.registry.listeners = hub.registry.listeners := by
  rcases hub.turn_membership event step
    (hub.react_turn now event step reacted) with
    same | ⟨writer, operation, registry, reply, answer, changed⟩
  · exact same
  · obtain ⟨_, kept | written⟩ := hub.answer_registry writer operation registry
      reply answer
    · rw [changed]
      exact kept
    · rw [consistent.exclusive writer written] at reads
      cases reads

/-! ## Nobody twice -/

theorem distinct_create (config : HubConfig) :
    (create config).registry.Distinct :=
  List.Pairwise.nil

theorem answer_distinct (hub : Hub) (id : OperationId) (operation : Operation)
    (registry : Registry) (reply : Reply) (distinct : hub.registry.Distinct)
    (answer : Answer hub id operation registry reply) : registry.Distinct := by
  cases answer with
  | joins listener held => exact hub.registry.distinct_add listener distinct
  | parts listener held => exact hub.registry.distinct_remove listener distinct
  | reads => exact distinct
  | exits => exact distinct
  | ends => exact distinct
  | fails => exact distinct

theorem distinct_react (hub : Hub) (now : Instant) (event : HubEvent)
    (step : Progress) (distinct : hub.registry.Distinct)
    (reacted : hub.react now event = some step) :
    step.hub.registry.Distinct := by
  have turn := hub.react_turn now event step reacted
  rw [Registry.Distinct]
  rcases hub.turn_membership event step turn with
    same | ⟨id, operation, registry, reply, answer, changed⟩
  · rw [same]
    exact distinct
  · rw [changed]
    exact hub.answer_distinct id operation registry reply distinct answer

theorem distinct_run (config : HubConfig) (timeline : Timeline) (hub : Hub)
    (reached : (create config).run timeline = some hub) :
    hub.registry.Distinct :=
  run_induction
    (fun before now event step distinct reacted =>
      before.distinct_react now event step distinct reacted)
    (distinct_create config) reached

/-! ## Absent listeners -/

/-- No handle of the listener is registered. -/
def Absent (hub : Hub) (listener : Listener) : Prop :=
  ∀ other ∈ hub.registry.listeners, other.isSame listener = false

theorem absent_react (hub : Hub) (step : Progress) (listener : Listener)
    (absent : hub.Absent listener)
    (nobody : ∀ other ∈ step.hub.registry.listeners,
      other ∉ hub.registry.listeners → other.isSame listener = false) :
    step.hub.Absent listener := by
  intro other member
  by_cases before : other ∈ hub.registry.listeners
  · exact absent other before
  · exact nobody other member before

theorem joined_cons (hub : Hub) (now : Instant) (event : HubEvent)
    (rest : Timeline) (step : Progress) (listener : Listener)
    (reacted : hub.react now event = some step) :
    listener ∈ hub.joined ((now, event) :: rest) ↔
      (listener ∈ step.hub.registry.listeners ∧
        listener ∉ hub.registry.listeners) ∨
      listener ∈ step.hub.joined rest := by
  simp [joined, observe, reacted]

/-- A fan-out is inside of calls to registered listeners only. -/
theorem call?_registered (hub : Hub) (id : OperationId) (listener : Listener)
    (delivery : Delivery) (consistent : hub.Consistent)
    (inside : hub.call? id = some (listener, delivery)) :
    listener ∈ hub.registry.listeners := by
  obtain ⟨operation, rest, report, found, walks⟩ :=
    (hub.call?_fanOut id listener delivery).mp inside
  obtain ⟨_, final⟩ := consistent.walking id operation delivery _ report found
    walks
  exact final.subset List.mem_cons_self

end AlarmRelay.Hub
