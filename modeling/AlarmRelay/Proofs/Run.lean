import AlarmRelay.Hub.Journal

/-!
# Induction over the runs of a hub

A run splits where its list of events splits, and what every event preserves
every run preserves.  `observe_induction` carries an invariant that ties the hub
to everything an observer has seen so far.
-/

set_option autoImplicit false

namespace AlarmRelay.Hub

theorem run_cons (hub : Hub) (now : Instant) (event : HubEvent)
    (rest : Timeline) (final : Hub) :
    hub.run ((now, event) :: rest) = some final ↔
      ∃ step, hub.react now event = some step ∧
        step.hub.run rest = some final := by
  simp only [run]
  cases reacted : hub.react now event with
  | none => simp
  | some step => simp

theorem run_append (hub : Hub) (first second : Timeline) (final : Hub) :
    hub.run (first ++ second) = some final ↔
      ∃ middle, hub.run first = some middle ∧
        middle.run second = some final := by
  induction first generalizing hub with
  | nil => simp [run]
  | cons entry rest ih =>
      obtain ⟨now, event⟩ := entry
      simp only [List.cons_append, run_cons, ih]
      constructor
      · rintro ⟨step, reacted, middle, firstRun, secondRun⟩
        exact ⟨middle, ⟨step, reacted, firstRun⟩, secondRun⟩
      · rintro ⟨middle, ⟨step, reacted, firstRun⟩, secondRun⟩
        exact ⟨step, reacted, middle, firstRun, secondRun⟩

theorem run_singleton (hub : Hub) (now : Instant) (event : HubEvent)
    (final : Hub) :
    hub.run [(now, event)] = some final ↔
      ∃ step, hub.react now event = some step ∧ step.hub = final := by
  rw [run_cons]
  simp [run]

theorem observe_append {α : Type} (view : Hub → HubEvent → Progress → List α)
    (hub : Hub) (first second : Timeline) (middle : Hub)
    (reached : hub.run first = some middle) :
    hub.observe view (first ++ second) =
      hub.observe view first ++ middle.observe view second := by
  induction first generalizing hub with
  | nil =>
      simp only [run, Option.some.injEq] at reached
      subst middle
      rfl
  | cons entry rest ih =>
      obtain ⟨now, event⟩ := entry
      obtain ⟨step, reacted, restRun⟩ := (run_cons _ _ _ _ _).mp reached
      simp only [List.cons_append, observe, reacted, List.append_assoc]
      rw [ih step.hub restRun]

theorem journal_cons (hub : Hub) (now : Instant) (event : HubEvent)
    (rest : Timeline) (step : Progress)
    (reacted : hub.react now event = some step) :
    hub.journal ((now, event) :: rest) =
      hub.marks event step ++ step.hub.journal rest := by
  simp only [journal, observe, reacted]

theorem journal_append (hub middle : Hub) (first second : Timeline)
    (reached : hub.run first = some middle) :
    hub.journal (first ++ second) =
      hub.journal first ++ middle.journal second :=
  observe_append marks hub first second middle reached

theorem run_induction {motive : Hub → Prop}
    (preserved : ∀ hub now event step, motive hub →
      hub.react now event = some step → motive step.hub)
    {hub final : Hub} {timeline : Timeline} (start : motive hub)
    (reached : hub.run timeline = some final) : motive final := by
  induction timeline generalizing hub with
  | nil =>
      simp only [run, Option.some.injEq] at reached
      subst final
      exact start
  | cons entry rest ih =>
      obtain ⟨now, event⟩ := entry
      obtain ⟨step, reacted, restRun⟩ := (run_cons _ _ _ _ _).mp reached
      exact ih (preserved hub now event step start reacted) restRun

/-- An invariant between a hub and what has been observed of it, kept by every
event, relates the last hub of a run to all that was observed along it. -/
theorem observe_induction {α : Type}
    {view : Hub → HubEvent → Progress → List α}
    {motive : Hub → List α → Prop}
    (preserved : ∀ hub now event step past, motive hub past →
      hub.react now event = some step →
        motive step.hub (past ++ view hub event step))
    {hub final : Hub} {timeline : Timeline} {past : List α}
    (start : motive hub past) (reached : hub.run timeline = some final) :
    motive final (past ++ hub.observe view timeline) := by
  induction timeline generalizing hub past with
  | nil =>
      simp only [run, Option.some.injEq] at reached
      subst final
      simpa [observe] using start
  | cons entry rest ih =>
      obtain ⟨now, event⟩ := entry
      obtain ⟨step, reacted, restRun⟩ := (run_cons _ _ _ _ _).mp reached
      have next := preserved hub now event step past start reacted
      simpa [observe, reacted, List.append_assoc] using ih next restRun

/-- The same for two observers at once. -/
theorem observe_both {α β : Type}
    {left : Hub → HubEvent → Progress → List α}
    {right : Hub → HubEvent → Progress → List β}
    {motive : Hub → List α → List β → Prop}
    (preserved : ∀ hub now event step seen shown, motive hub seen shown →
      hub.react now event = some step →
        motive step.hub (seen ++ left hub event step)
          (shown ++ right hub event step))
    {hub final : Hub} {timeline : Timeline} {seen : List α} {shown : List β}
    (start : motive hub seen shown) (reached : hub.run timeline = some final) :
    motive final (seen ++ hub.observe left timeline)
      (shown ++ hub.observe right timeline) := by
  induction timeline generalizing hub seen shown with
  | nil =>
      simp only [run, Option.some.injEq] at reached
      subst final
      simpa [observe] using start
  | cons entry rest ih =>
      obtain ⟨now, event⟩ := entry
      obtain ⟨step, reacted, restRun⟩ := (run_cons _ _ _ _ _).mp reached
      have next := preserved hub now event step seen shown start reacted
      simpa [observe, reacted, List.append_assoc] using ih next restRun

/-- What holds at first, and after every event that follows a run after which it
held, holds after every run. -/
theorem reached_induction {motive : Timeline → Hub → Prop} {start final : Hub}
    {timeline : Timeline}
    (preserved : ∀ past hub now event step, start.run past = some hub →
      motive past hub → hub.react now event = some step →
        motive (past ++ [(now, event)]) step.hub)
    (first : motive [] start) (reached : start.run timeline = some final) :
    motive timeline final := by
  have onward : ∀ past hub, start.run past = some hub → motive past hub →
      hub.run timeline = some final → motive (past ++ timeline) final := by
    clear reached
    induction timeline with
    | nil =>
        intro past hub before held reached
        cases reached
        rwa [List.append_nil]
    | cons entry rest ih =>
        intro past hub before held reached
        obtain ⟨now, event⟩ := entry
        obtain ⟨step, reacted, restRun⟩ := (run_cons _ _ _ _ _).mp reached
        have here : start.run (past ++ [(now, event)]) = some step.hub :=
          (run_append _ _ _ _).mpr
            ⟨hub, before, (run_singleton _ _ _ _).mpr ⟨step, reacted, rfl⟩⟩
        have later := ih (past ++ [(now, event)]) step.hub here
          (preserved past hub now event step before held reacted) restRun
        rwa [List.append_assoc] at later
  exact onward [] start rfl first reached

theorem observe_snoc {α : Type} (view : Hub → HubEvent → Progress → List α)
    (hub middle : Hub) (past : Timeline) (now : Instant) (event : HubEvent)
    (step : Progress) (reached : hub.run past = some middle)
    (reacted : middle.react now event = some step) :
    hub.observe view (past ++ [(now, event)]) =
      hub.observe view past ++ view middle event step := by
  rw [observe_append view hub past _ middle reached]
  simp only [observe, reacted, List.append_nil]

/-- The event of a run in which an observer saw an entry, with what it saw before
and afterwards. -/
inductive Sighting {α : Type} (view : Hub → HubEvent → Progress → List α)
    (hub final : Hub) (entry : α) : Timeline → List α → List α → Prop where
  | found (first last : Timeline) (now : Instant) (event : HubEvent)
      (middle : Hub) (step : Progress) (left right : List α)
      (firstRun : hub.run first = some middle)
      (reacted : middle.react now event = some step)
      (lastRun : step.hub.run last = some final)
      (shown : view middle event step = left ++ entry :: right) :
      Sighting view hub final entry (first ++ (now, event) :: last)
        (hub.observe view first ++ left) (right ++ step.hub.observe view last)

/-- Whatever an observer has seen along a run, it saw in one event of it. -/
theorem observe_split {α : Type} (view : Hub → HubEvent → Progress → List α)
    (hub final : Hub) (timeline : Timeline) (before after : List α) (entry : α)
    (reached : hub.run timeline = some final)
    (split : hub.observe view timeline = before ++ entry :: after) :
    Sighting view hub final entry timeline before after := by
  induction timeline generalizing hub before with
  | nil => simp [observe] at split
  | cons head rest ih =>
      obtain ⟨now, event⟩ := head
      obtain ⟨step, reacted, restRun⟩ := (run_cons _ _ _ _ _).mp reached
      simp only [observe, reacted] at split
      have later : ∀ seen, step.hub.observe view rest = seen ++ entry :: after →
          Sighting view hub final entry ((now, event) :: rest)
            (view hub event step ++ seen) after := by
        intro seen restSplit
        cases ih step.hub seen restRun restSplit with
        | found first last later act middle next left right firstRun acted lastRun
            shown =>
            have whole := Sighting.found ((now, event) :: first) last later act
              middle next left right
              ((run_cons _ _ _ _ _).mpr ⟨step, reacted, firstRun⟩) acted lastRun
              shown
            simpa only [observe, reacted, List.append_assoc, List.cons_append]
              using whole
      rcases List.append_eq_append_iff.mp split with
        ⟨seen, same, restSplit⟩ | ⟨found, same, restSplit⟩
      · rw [same]
        exact later seen restSplit
      · cases found with
        | nil =>
            have whole := later [] restSplit.symm
            rw [List.append_nil] at same whole
            rwa [same] at whole
        | cons head right =>
            rw [List.cons_append, List.cons.injEq] at restSplit
            obtain ⟨rfl, rest_after⟩ := restSplit
            rw [rest_after]
            exact .found [] rest now event hub step before right rfl reacted restRun
              same

end AlarmRelay.Hub
