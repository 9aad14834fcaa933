import AlarmRelay.Proofs.Hub.Fate
import AlarmRelay.Proofs.Hub.LoopOrder
import AlarmRelay.Proofs.Store

/-!
# Snapshots heal

However wrong the view of a listener has become, a snapshot that it accepts makes
it right, provided that the scan is not stale.  Once nobody writes the store or
announces anything, the only stale scan that may still be in flight is that of the
scheduled tick begun before.  The next scheduled tick begins only after that one is
gone, so what its listeners accept is the store, and so is all that follows.
-/

set_option autoImplicit false

namespace AlarmRelay

namespace Hub

/-! ## Where fan-outs come from -/

section

variable (hub : Hub) (now : Instant) (event : HubEvent) (step : Progress)
  (id : OperationId) (operation : Operation) (delivery : Delivery)
  (fanOut : FanOut) (carries : operation.fanOut? = some (delivery, fanOut))

include carries

/-- A fan-out that is there once an operation has begun was there before, or is that
of the operation. -/
theorem carried_begun (begun : Operation)
    (operations : step.hub.operations = (hub.begin begun).1.operations)
    (found : step.hub.operation? id = some operation) :
    hub.operation? id = some operation ∨
      begun.fanOut? = some (delivery, fanOut) := by
  rw [hub.operation?_begun step.hub id begun operations] at found
  cases before : hub.operation? id with
  | some other =>
      rw [before, Option.some_or] at found
      exact Or.inl found
  | none =>
      rw [before, Option.none_or] at found
      split at found
      · cases found
        exact Or.inr carries
      · cases found

/-- A fan-out that is there once an operation has moved on was there before, or is
that of the operation. -/
theorem carried_moved (other : OperationId) (registry : Registry)
    (before next : Operation) (present : hub.operation? other = some before)
    (same : step.hub.Alike
      ({ hub with registry := registry }.putOperation other next))
    (found : step.hub.operation? id = some operation) :
    hub.operation? id = some operation ∨
      id = other ∧ next.fanOut? = some (delivery, fanOut) := by
  rw [hub.operation?_moved step.hub registry other id before next present same]
    at found
  split at found
  · rename_i named
    cases found
    exact Or.inr ⟨named, carries⟩
  · exact Or.inl found

/-- A fan-out goes on, was asked for, or carries what the source answered. -/
theorem fanOut_react (reacted : hub.react now event = some step)
    (found : step.hub.operation? id = some operation) :
    (∃ before past, hub.operation? id = some before ∧
      before.fanOut? = some (delivery, past)) ∨
    (∃ request, event = .ask request ∧
      request.operation.fanOut? = some (delivery, fanOut)) ∨
    ∃ alarms, event = .answerScan id (.alarms alarms) ∧
      delivery = .snapshot alarms := by
  have went : hub.operation? id = some operation →
      ∃ before past, hub.operation? id = some before ∧
        before.fanOut? = some (delivery, past) :=
    fun same => ⟨operation, fanOut, same, carries⟩
  have begins := hub.carried_begun step id operation delivery fanOut carries
  have moves := hub.carried_moved step id operation delivery fanOut carries
  cases hub.react_turn now event step reacted with
  | rests _ same idle unheard =>
      rw [alike_operation? _ _ same] at found
      exact Or.inl (went found)
  | asks request same silent =>
      rcases begins _ same.operations found with before | asked
      · exact Or.inl (went before)
      · exact Or.inr (Or.inl ⟨request, rfl, asked⟩)
  | stops loop owned same silent =>
      rcases begins _ same.operations found with before | plain
      · exact Or.inl (went before)
      · cases plain
  | ticks loop first last live registry operations names before after idle silent =>
      rcases begins _ operations found with before | plain
      · exact Or.inl (went before)
      · cases plain
  | answers _ other before registry reply drives present answer same replied =>
      rw [hub.operation?_left step.hub registry other id same] at found
      split at found
      · cases found
      · exact Or.inl (went found)
  | fails other outcome message present same replied =>
      rw [hub.operation?_left step.hub hub.registry other id same] at found
      split at found
      · cases found
      · exact Or.inl (went found)
  | scans _ other drives present held somebody same silent =>
      rcases moves other _ _ _ present same found with before | ⟨_, plain⟩
      · exact Or.inl (went before)
      · cases plain
  | fetches other alarms present same silent =>
      rcases moves other _ _ _ present same found with before | ⟨rfl, scanned⟩
      · exact Or.inl (went before)
      · cases scanned
        exact Or.inr (Or.inr ⟨alarms, rfl, rfl⟩)
  | walks _ other before next carried drives present held waits walking same
      silent =>
      rcases moves other hub.registry _ _ present same found with
        old | ⟨rfl, onward⟩
      · exact Or.inl (went old)
      · rw [walking] at onward
        cases onward
        exact Or.inl ⟨before, _, present, waits⟩
  | hears other before next carried listener rest report outcome present called
      calls same silent =>
      rcases moves other hub.registry _ _ present same found with
        old | ⟨rfl, onward⟩
      · exact Or.inl (went old)
      · rw [calls] at onward
        cases onward
        exact Or.inl ⟨before, _, present, called⟩
  | drops other caller same silent =>
      rw [hub.operation?_left step.hub hub.registry other id same] at found
      split at found
      · cases found
      · exact Or.inl (went found)
  | loses ids ticking same silent =>
      rw [hub.operation?_lost step.hub ids id same] at found
      split at found
      · cases found
      · exact Or.inl (went found)

end

/-! ## From some point on -/

/-- What holds of a hub and of all that has happened since it was `start`.  The
ticks in `begun` are those that loops have begun since. -/
structure Heals (start : Hub) (store : AlarmStore) (listener : Listener)
    (view : AlarmStore) (hub : Hub) (begun : List OperationId)
    (journal : List Mark) : Prop where
  fresh : ∀ id operation delivery fanOut, hub.operation? id = some operation →
    operation.fanOut? = some (delivery, fanOut) →
      id ∈ start.scheduledTicks ∨ delivery = .snapshot store.scan
  /-- A tick that was in flight at the start is gone once another one begins. -/
  replaced : begun ≠ [] → ∀ id ∈ start.scheduledTicks, id ∉ hub.inFlight
  named : ∀ id other delivery outcome,
    .ended id other delivery outcome ∈ journal → id < hub.nextOperation
  healed : ∀ tick ∈ begun, ∀ other delivery,
    .ended tick other delivery .accepted ∈ journal →
      other.isSame listener = true →
        view.follow (Mark.accepted listener journal) = store

section

variable (start hub : Hub) (store : AlarmStore) (listener : Listener)
  (view : AlarmStore) (begun : List OperationId) (journal : List Mark)
  (now : Instant) (event : HubEvent) (step : Progress)

theorem fresh_react
    (heals : Heals start store listener view hub begun journal)
    (still : event.Still store) (reacted : hub.react now event = some step)
    (id : OperationId) (operation : Operation) (delivery : Delivery)
    (fanOut : FanOut) (found : step.hub.operation? id = some operation)
    (carries : operation.fanOut? = some (delivery, fanOut)) :
    id ∈ start.scheduledTicks ∨ delivery = .snapshot store.scan := by
  rcases hub.fanOut_react now event step id operation delivery fanOut carries reacted
      found with
    ⟨before, past, present, carried⟩ | ⟨request, rfl, asked⟩ |
      ⟨alarms, rfl, scanned⟩
  · exact heals.fresh id before delivery past present carried
  · -- Only an announcement is a fan-out from the beginning.
    have quiet := still.1
    cases request with
    | deliver delivery cause => cases quiet
    | publish event => cases quiet
    | _ => cases asked
  · have same := still.2 id (.alarms alarms) rfl
    cases same
    exact Or.inr scanned

theorem replaced_react (past : List OperationId)
    (heals : Heals start store listener view hub begun journal)
    (known : start.Begun past) (ticks : hub.Begun (past ++ begun))
    (linked : step.hub.chain.Linked)
    (reacted : hub.react now event = some step)
    (some' : begun ++ hub.newTicks step.hub ≠ []) :
    ∀ id ∈ start.scheduledTicks, id ∉ step.hub.inFlight := by
  intro id old current
  have flow := hub.react_flow now event step reacted
  have inPast : id ∈ past ++ begun := List.mem_append_left _ (known.known id old)
  have before := flow_inFlight hub step.hub flow id (ticks.named id inPast) current
  by_cases none : begun = []
  · -- The tick that has just begun would be the second one in flight.
    subst none
    obtain ⟨tick, new⟩ := List.exists_mem_of_ne_nil _ (by simpa using some')
    obtain ⟨_, name, _, inside⟩ := mem_newTicks hub step.hub flow tick new
    have still := (begun_flow hub step.hub _ ticks flow).inside id
      (List.mem_append_left _ inPast) current
    have same := step.hub.scheduledTicks_unique id tick linked still inside
    exact absurd (ticks.named id inPast) (by rw [same, name]; exact Nat.lt_irrefl _)
  · exact heals.replaced none id old before

theorem ended_marks (id : OperationId) (other : Listener) (delivery : Delivery)
    (outcome : CallOutcome)
    (ended : .ended id other delivery outcome ∈ hub.marks event step) :
    event = .answerCall id outcome ∧ hub.call? id = some (other, delivery) := by
  have here : .ended id other delivery outcome ∈ hub.endMarks event := by
    rcases (hub.mem_marks event step _).mp ended with
      here | ⟨_, _, _, same⟩ | ⟨_, _, _, _, same⟩ | ⟨_, _, _, same⟩ |
        ⟨_, _, _, _, _, same⟩
    · exact here
    · cases replied : step.reply with
      | none => rw [replied] at same; cases same
      | some reply => rw [replied] at same; cases same
    · cases same
    · cases same
    · cases same
  cases event with
  | answerCall addressed answered =>
      simp only [endMarks, List.mem_map, Option.mem_toList] at here
      obtain ⟨call, inside, same⟩ := here
      cases same
      exact ⟨rfl, inside⟩
  | _ => cases here

theorem named_react (consistent : hub.Consistent)
    (heals : Heals start store listener view hub begun journal) (id : OperationId)
    (other : Listener) (delivery : Delivery) (outcome : CallOutcome)
    (ended : .ended id other delivery outcome ∈ journal ++ hub.marks event step) :
    id < hub.nextOperation := by
  rcases List.mem_append.mp ended with before | here
  · exact heals.named id other delivery outcome before
  · obtain ⟨_, inside⟩ := hub.ended_marks event step id other delivery outcome here
    obtain ⟨operation, _, _, found, _⟩ := (hub.call?_fanOut id other delivery).mp inside
    exact consistent.named id ((hub.mem_inFlight id).mpr ⟨operation, found⟩)

theorem marks_accepted : Mark.accepted listener (hub.marks event step) =
    Mark.accepted listener (hub.endMarks event) := by
  rw [Mark.accepted, marks_filterMap]
  cases step.reply <;> simp [Mark.accepted]

/-- What an event lets a listener accept is what the call that it ends carries. -/
theorem accepted_marks (delivery : Delivery) (rest : List Delivery)
    (accepts : Mark.accepted listener (hub.marks event step) = delivery :: rest) :
    rest = [] ∧ ∃ id other, event = .answerCall id .accepted ∧
      hub.call? id = some (other, delivery) ∧ other.isSame listener = true := by
  rw [marks_accepted] at accepts
  cases event with
  | answerCall id outcome =>
      cases inside : hub.call? id with
      | none => simp [endMarks, inside, Mark.accepted] at accepts
      | some call =>
          obtain ⟨other, carried⟩ := call
          cases outcome with
          | accepted =>
              by_cases same : other.isSame listener = true
              · simp [endMarks, inside, Mark.accepted, same] at accepts
                obtain ⟨rfl, rfl⟩ := accepts
                exact ⟨rfl, id, other, rfl, inside, same⟩
              · simp [endMarks, inside, Mark.accepted, same] at accepts
          | failed error => simp [endMarks, inside, Mark.accepted] at accepts
          | panicked payload => simp [endMarks, inside, Mark.accepted] at accepts
  | _ => simp [endMarks, Mark.accepted] at accepts

theorem healed_react (sorted : store.Sorted) (consistent : hub.Consistent)
    (heals : Heals start store listener view hub begun journal)
    (reacted : hub.react now event = some step) (tick : OperationId)
    (member : tick ∈ begun ++ hub.newTicks step.hub) (other : Listener)
    (delivery : Delivery)
    (ended : .ended tick other delivery .accepted ∈
      journal ++ hub.marks event step)
    (same : other.isSame listener = true) :
    view.follow (Mark.accepted listener (journal ++ hub.marks event step)) =
      store := by
  have flow := hub.react_flow now event step reacted
  have known := named_react start hub store listener view begun journal event step
    consistent heals tick other delivery .accepted ended
  have old : tick ∈ begun := by
    rcases List.mem_append.mp member with old | new
    · exact old
    · rw [(mem_newTicks hub step.hub flow tick new).2.1] at known
      exact absurd known (Nat.lt_irrefl _)
  rw [Mark.accepted_append, AlarmStore.follow_append]
  cases accepts : Mark.accepted listener (hub.marks event step) with
  | nil =>
      rcases List.mem_append.mp ended with before | here
      · exact heals.healed tick old other delivery before same
      · have member : delivery ∈ Mark.accepted listener (hub.marks event step) :=
          List.mem_filterMap.mpr ⟨_, here, by simp [same]⟩
        rw [accepts] at member
        cases member
  | cons carried rest =>
      obtain ⟨rfl, id, called, rfl, inside, _⟩ :=
        hub.accepted_marks listener event step carried rest accepts
      obtain ⟨operation, pending, report, found, carries⟩ :=
        (hub.call?_fanOut id called carried).mp inside
      have current := (hub.mem_inFlight id).mpr ⟨operation, found⟩
      have gone := heals.replaced (List.ne_nil_of_mem old)
      rcases heals.fresh id operation carried _ found carries with stale | scanned
      · exact absurd current (gone id stale)
      · rw [scanned]
        exact store.ofAlarms_scan sorted

end

theorem heals_run (start hub final : Hub) (store : AlarmStore)
    (listener : Listener) (view : AlarmStore) (past begun : List OperationId)
    (journal : List Mark) (timeline : Timeline) (sorted : store.Sorted)
    (known : start.Begun past) (ordered : hub.Ordered)
    (consistent : hub.Consistent) (ticks : hub.Begun (past ++ begun))
    (heals : Heals start store listener view hub begun journal)
    (still : ∀ entry ∈ timeline, entry.2.Still store)
    (reached : hub.run timeline = some final) :
    Heals start store listener view final (begun ++ hub.ticksBegun timeline)
      (journal ++ hub.journal timeline) := by
  induction timeline generalizing hub begun journal with
  | nil =>
      simp only [run, Option.some.injEq] at reached
      subst final
      simpa [ticksBegun, Hub.journal, observe] using heals
  | cons entry rest ih =>
      obtain ⟨now, event⟩ := entry
      obtain ⟨step, reacted, restRun⟩ := (run_cons _ _ _ _ _).mp reached
      have flow := hub.react_flow now event step reacted
      have later := (hub.ordered_react now event step ordered reacted).1
      have quiet : event.Still store := still _ List.mem_cons_self
      have next : Heals start store listener view step.hub
          (begun ++ hub.newTicks step.hub) (journal ++ hub.marks event step) := {
        fresh := fresh_react start hub store listener view begun journal now event
          step heals quiet reacted
        replaced := replaced_react start hub store listener view begun journal now
          event step past heals known ticks later.linked reacted
        named := by
          intro id other delivery outcome ended
          exact Nat.lt_of_lt_of_le
            (named_react start hub store listener view begun journal event step
              consistent heals id other delivery outcome ended)
            (flow_names hub step.hub flow).1
        healed := healed_react start hub store listener view begun journal now event
          step sorted consistent heals reacted }
      have all := ih step.hub (begun ++ hub.newTicks step.hub)
        (journal ++ hub.marks event step) later
        (hub.consistent_turn event step consistent
          (hub.react_turn now event step reacted))
        (by simpa only [List.append_assoc] using begun_flow hub step.hub _ ticks flow)
        next (fun entry member => still entry (List.mem_cons_of_mem _ member)) restRun
      simpa only [ticksBegun_eq, Hub.journal, observe, reacted,
        List.append_assoc] using all

/-- Once the notifications that callers asked for are over, nobody but a loop fans
anything out. -/
theorem heals_settled (hub : Hub) (store : AlarmStore) (listener : Listener)
    (view : AlarmStore) (settled : hub.isSettled = true) :
    Heals hub store listener view hub [] [] where
  fresh := by
    intro id operation delivery fanOut found carries
    have notifies : operation.notifies = true := by
      cases operation <;> first | rfl | cases carries
    by_cases inside : id ∈ hub.scheduledTicks
    · exact Or.inl inside
    · have caller : id ∈ hub.callerOperations :=
        (hub.mem_callerOperations id).mpr
          ⟨(hub.mem_inFlight id).mpr ⟨operation, found⟩, inside⟩
      have ceased := List.all_eq_true.mp settled id caller
      simp [found, notifies] at ceased
  replaced := by
    intro none
    cases none rfl
  named := by
    intro id other delivery outcome ended
    cases ended
  healed := by
    intro tick begun
    cases begun

end Hub

/-! ## Histories -/

namespace History

theorem isBacked_append (start : AlarmStore) (first second : History)
    (backed : (first ++ second).isBacked start = true) :
    second.isBacked (first.store start) = true := by
  induction first generalizing start with
  | nil => exact backed
  | cons entry rest ih =>
      obtain ⟨now, event⟩ := entry
      cases event with
      | write change => exact ih _ backed
      | hub event =>
          apply ih
          cases event with
          | answerScan id outcome =>
              simp only [List.cons_append, isBacked, Bool.and_eq_true] at backed
              exact backed.2
          | _ => exact backed

theorem still_of_quiet (store : AlarmStore) (history : History)
    (backed : history.isBacked store = true) (quiet : history.isQuiet = true) :
    ∀ entry ∈ history.timeline, entry.2.Still store := by
  induction history with
  | nil =>
      intro entry member
      cases member
  | cons first rest ih =>
      obtain ⟨now, event⟩ := first
      simp only [isQuiet, List.all_cons, Bool.and_eq_true] at quiet
      obtain ⟨calm, later⟩ := quiet
      cases event with
      | write change => cases calm
      | hub event =>
          have silent : event.isIngress = false := by simpa using calm
          have onward : isBacked store rest = true := by
            cases event with
            | answerScan id outcome =>
                simp only [isBacked, Bool.and_eq_true] at backed
                exact backed.2
            | _ => exact backed
          intro entry member
          rcases List.mem_cons.mp member with rfl | member
          · refine ⟨silent, ?_⟩
            rintro id outcome rfl
            simp only [isBacked, Bool.and_eq_true, beq_iff_eq] at backed
            exact backed.1
          · exact ih onward later entry member

end History

namespace Hub

/-- Suppose that every notification that a caller asked for is over, and that from
then on nobody writes the store or announces anything.  Once a listener has accepted
a call of a scheduled tick that has begun since, its view is the store, and it stays
so for the rest of the run. -/
theorem snapshots_heal (config : HubConfig) (valid : config.validate = .ok ())
    (seeds : List Alarm) (past since : History) (hub final : Hub)
    (listener : Listener) (view : AlarmStore) (tick : OperationId)
    (other : Listener) (delivery : Delivery)
    (backed : (past ++ since).isBacked (.ofAlarms seeds) = true)
    (quiet : since.isQuiet = true)
    (reached : (create config).run past.timeline = some hub)
    (settled : hub.isSettled = true)
    (onward : hub.run since.timeline = some final)
    (begun : tick ∈ hub.ticksBegun since.timeline)
    (accepted : .ended tick other delivery .accepted ∈ hub.journal since.timeline)
    (same : other.isSame listener = true) :
    view.follow (Mark.accepted listener
      ((create config).journal (past ++ since).timeline)) =
        past.store (.ofAlarms seeds) := by
  have ticks := begun_run (create config) hub past.timeline []
    (begun_create config) reached
  rw [List.nil_append] at ticks
  have heals := heals_run hub hub final (past.store (.ofAlarms seeds)) listener
    (view.follow (Mark.accepted listener ((create config).journal past.timeline)))
    _ [] [] since.timeline
    (AlarmStore.sorted_history _ past (AlarmStore.sorted_ofAlarms seeds)) ticks
    (ordered_run config valid past.timeline hub reached)
    (consistent_run config past.timeline hub reached) (by simpa using ticks)
    (hub.heals_settled _ listener _ settled)
    (since.still_of_quiet _ (History.isBacked_append _ past since backed) quiet)
    onward
  have healed := heals.healed tick (by simpa using begun) other delivery
    (by simpa using accepted) same
  rw [List.nil_append, ← AlarmStore.follow_append, ← Mark.accepted_append] at healed
  rw [History.timeline, List.filterMap_append]
  rw [← (create config).journal_append hub past.timeline since.timeline reached]
    at healed
  exact healed

/-- Two alarms of which one goes and another one comes without a word while a tick
is between its scan and its calls. -/
def driftedHistory : History :=
  [(.ofMillis 0, .hub (.ask (.subscribe ⟨1, "pager"⟩))),
    (.ofMillis 0, .hub (.advance 0)), (.ofMillis 0, .hub (.start true)),
    (.ofMillis 0, .hub (.advanceLoop 0)), (.ofMillis 0, .hub (.advanceLoop 0)),
    (.ofMillis 0, .hub (.advanceLoop 0)),
    (.ofMillis 0, .hub (.answerScan 1 (.alarms
      [.raise 0 1 "disk" "disk:1" .major, .raise 0 2 "fan" "fan:2" .minor]))),
    (.ofMillis 10, .write (.remove 1)),
    (.ofMillis 20, .write (.upsert (.raise 20 3 "link" "link:3" .critical)))]

/-- The stale scan reaches the listener, and then that of the next tick. -/
def healedHistory : History :=
  [(.ofMillis 30, .hub (.advanceLoop 0)),
    (.ofMillis 40, .hub (.answerCall 1 .accepted)),
    (.ofMillis 40, .hub (.advanceLoop 0)),
    (.ofMillis 5000, .hub (.advanceLoop 0)),
    (.ofMillis 5000, .hub (.advanceLoop 0)),
    (.ofMillis 5000, .hub (.answerScan 2 (.alarms
      [.raise 0 2 "fan" "fan:2" .minor, .raise 20 3 "link" "link:3" .critical]))),
    (.ofMillis 5000, .hub (.advanceLoop 0)),
    (.ofMillis 5010, .hub (.answerCall 2 .accepted))]

theorem snapshots_heal_drifted :
    ∃ hub final, HubConfig.standard.validate = .ok () ∧
      (create .standard).run driftedHistory.timeline = some hub ∧
      hub.isSettled = true ∧
      hub.run healedHistory.timeline = some final ∧
      AlarmStore.follow .empty (Mark.accepted ⟨1, "pager"⟩
        ((create .standard).journal (driftedHistory ++ healedHistory).timeline)) =
          driftedHistory.store (.ofAlarms
            [.raise 0 1 "disk" "disk:1" .major, .raise 0 2 "fan" "fan:2" .minor]) := by
  refine ⟨_, _, rfl, rfl, by decide, rfl, ?_⟩
  exact snapshots_heal .standard rfl _ driftedHistory healedHistory _ _
    ⟨1, "pager"⟩ .empty 2 ⟨1, "pager"⟩
    (.snapshot [.raise 0 2 "fan" "fan:2" .minor,
      .raise 20 3 "link" "link:3" .critical])
    (by decide) (by decide) rfl (by decide) rfl (by decide) (by decide) rfl

end Hub
end AlarmRelay
