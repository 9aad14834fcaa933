import AlarmRelay.Proofs.Hub.TickStep

/-!
# Fair journeys

In a fair run without end everybody leaves the line at the lock: whoever stands first
holds the lock, so it goes on until it gives the lock up, and nobody overtakes those
behind it.  A tick stands in the line twice and reads the source in between, so it
comes to an end.
-/

set_option autoImplicit false

namespace AlarmRelay

namespace Hub

/-! ## One event -/

section

variable (hub : Hub) (now : Instant) (event : HubEvent) (step : Progress)
  (lined : hub.Lined) (reacted : hub.react now event = some step)

/-- Whoever stands first in the line is due. -/
theorem front_due (lined : hub.Lined) (front : LockRequest)
    (others : List LockRequest)
    (split : hub.registry.lock.line = front :: others) :
    hub.IsDue front.ticket := by
  obtain ⟨operation, found, side⟩ :=
    lined.entitled front (split ▸ List.mem_cons_self)
  have held : operation.lockSide? = some .shared ∧
        hub.registry.lock.holdsShared front.ticket = true ∨
      operation.lockSide? = some .exclusive ∧
        hub.registry.lock.holdsExclusive front.ticket = true := by
    rcases hub.registry.lock.line_front front others lined.occupied split with
      ⟨mode, reads⟩ | ⟨mode, writes⟩
    · exact Or.inl ⟨mode ▸ side, reads⟩
    · exact Or.inr ⟨mode ▸ side, writes⟩
  by_cases owned : operation = .borrow
  · subst owned
    rcases held with ⟨_, reads⟩ | ⟨wrong, _⟩
    · exact Or.inr (Or.inr ⟨found, reads⟩)
    · cases wrong
  · exact (hub.holder_goes front.ticket operation found owned held).imp_right
      Or.inl

theorem due_inFlight (id : OperationId) (due : hub.IsDue id) :
    id ∈ hub.inFlight := by
  rw [← not_not (a := id ∈ hub.inFlight), ← absent_iff]
  intro absent
  rcases due with advances | outside | ⟨borrows, _⟩
  · simp [advance, absent] at advances
  · simp [isOutside, call?, isScanning, absent] at outside
  · rw [absent] at borrows
    cases borrows

include lined reacted

/-- Whoever stays in the line comes no later than before, and whoever leaves it is
gone or goes to read the source. -/
theorem ahead_react (entry : LockRequest) (before after : List LockRequest)
    (split : hub.registry.lock.line = before ++ entry :: after) :
    (entry ∉ step.hub.registry.lock.line ∧
      (step.hub.operation? entry.ticket = none ∨
        hub.operation? entry.ticket = some (.tick .checking) ∧
        step.hub.operation? entry.ticket = some (.tick .scanning))) ∨
    ((∃ sooner later, sooner.Sublist before ∧
        step.hub.registry.lock.line = sooner ++ entry :: later) ∧
      ∀ operation, hub.operation? entry.ticket = some operation →
        ∃ next, step.hub.operation? entry.ticket = some next ∧
          operation.Becomes next) := by
  obtain ⟨gone, traffic⟩ := hub.turn_traffic event step lined.consistent
    (hub.react_turn now event step reacted)
  obtain ⟨operation, found, side⟩ := lined.entitled entry (by simp [split])
  by_cases left : entry.ticket ∈ gone
  · refine Or.inl ⟨?_, traffic.left _ left⟩
    rw [traffic.line, List.mem_append, not_or]
    constructor
    · simp [left]
    · -- A bid is made by somebody who does not stand in the line yet.
      intro member
      obtain ⟨bid, made, request⟩ := List.mem_filterMap.mp member
      obtain ⟨mode, _, same⟩ := Option.map_eq_some_iff.mp request
      have nothing := ((hub.mem_newBids step.hub bid).mp made).2.2.2
      rw [← same] at found side
      rw [found, Option.bind_some, side] at nothing
      cases nothing
  · right
    constructor
    · have stays : (!gone.contains entry.ticket) = true := by simpa using left
      have line := traffic.line
      rw [split, List.filter_append, List.filter_cons, if_pos stays,
        List.append_assoc, List.cons_append] at line
      exact ⟨_, _, List.filter_sublist, line⟩
    · intro other present
      rw [found] at present
      cases present
      exact traffic.kept _ left operation found (by rw [side]; rfl)

end

end Hub

namespace Journey

variable (journey : Journey)

theorem opening_succ (count : Nat) :
    journey.opening (count + 1) =
      journey.opening count ++
        [(journey.times count, journey.events count)] := by
  rw [opening, List.range_succ, List.map_append]
  rfl

theorem opening_run (count : Nat) :
    (journey.hubs 0).run (journey.opening count) =
      some (journey.hubs count) := by
  induction count with
  | zero => rfl
  | succ count ih =>
      obtain ⟨step, reacted, next⟩ := journey.goes count
      rw [opening_succ, next]
      exact (Hub.run_append _ _ _ _).mpr ⟨journey.hubs count, ih,
        (Hub.run_singleton _ _ _ _).mpr ⟨step, reacted, rfl⟩⟩

/-- The line at the lock at some time. -/
def line (index : Nat) : List LockRequest :=
  (journey.hubs index).registry.lock.line

/-- Something that is so and later is not ceases in between. -/
theorem ceases (holds : Nat → Prop) (start distance : Nat) (here : holds start)
    (ceased : ¬ holds (start + distance)) :
    ∃ last, start ≤ last ∧ (∀ index, start ≤ index → index ≤ last →
      holds index) ∧ ¬ holds (last + 1) := by
  induction distance generalizing start with
  | zero => exact absurd here ceased
  | succ distance ih =>
      by_cases still : holds (start + 1)
      · obtain ⟨last, order, kept, ends⟩ := ih (start + 1) still
          (by rwa [Nat.add_right_comm])
        refine ⟨last, Nat.le_of_succ_le order, ?_, ends⟩
        intro index first within
        rcases Nat.eq_or_lt_of_le first with same | beyond
        · exact same ▸ here
        · exact kept index beyond within
      · refine ⟨start, Nat.le_refl _, ?_, still⟩
        intro index first within
        exact Nat.le_antisymm first within ▸ here

section

variable (lined : ∀ index, (journey.hubs index).Lined)

include lined

/-- As long as somebody stays in the line nobody overtakes it. -/
theorem ahead_stays (index last : Nat) (entry : LockRequest)
    (before after : List LockRequest)
    (split : journey.line index = before ++ entry :: after)
    (order : index ≤ last)
    (stays : ∀ other, index ≤ other → other ≤ last →
      entry ∈ journey.line other) :
    ∃ sooner later, sooner.Sublist before ∧
      journey.line last = sooner ++ entry :: later := by
  induction last, order using Nat.le_induction with
  | base => exact ⟨before, after, List.Sublist.refl _, split⟩
  | succ last order ih =>
      obtain ⟨sooner, later, fewer, here⟩ := ih fun other first within =>
        stays other first (Nat.le_succ_of_le within)
      obtain ⟨step, reacted, next⟩ := journey.goes last
      have present := stays (last + 1) (Nat.le_succ_of_le order) (Nat.le_refl _)
      rw [line, next] at present ⊢
      rcases (journey.hubs last).ahead_react _ _ step (lined last) reacted entry
        sooner later here with ⟨left, _⟩ | ⟨⟨first, rest, shorter, split⟩, _⟩
      · exact absurd present left
      · exact ⟨first, rest, shorter.trans fewer, split⟩

/-- As long as somebody stays in the line it goes on as what it is. -/
theorem becomes_stays (index last : Nat) (entry : LockRequest)
    (operation : Operation)
    (found : (journey.hubs index).operation? entry.ticket = some operation)
    (order : index ≤ last)
    (stays : ∀ other, index ≤ other → other ≤ last →
      entry ∈ journey.line other) :
    ∃ current, (journey.hubs last).operation? entry.ticket = some current ∧
      operation.Becomes current := by
  induction last, order using Nat.le_induction with
  | base => exact ⟨operation, found, .same operation⟩
  | succ last order ih =>
      obtain ⟨current, here, becomes⟩ := ih fun other first within =>
        stays other first (Nat.le_succ_of_le within)
      obtain ⟨step, reacted, next⟩ := journey.goes last
      obtain ⟨before, after, split⟩ :=
        List.mem_iff_append.mp (stays last order (Nat.le_succ _))
      have present := stays (last + 1) (Nat.le_succ_of_le order) (Nat.le_refl _)
      rw [line, next] at present
      rcases (journey.hubs last).ahead_react _ _ step (lined last) reacted entry
        before after split with ⟨left, _⟩ | ⟨_, kept⟩
      · exact absurd present left
      · obtain ⟨later, found, onward⟩ := kept current here
        exact ⟨later, next ▸ found, operation.becomes_trans _ _ becomes onward⟩

end

/-! ## Leaving the line -/

section

variable (fair : journey.IsFair) (lined : ∀ index, (journey.hubs index).Lined)

include fair lined

/-- Whoever stands first leaves the line or goes on by a step. -/
theorem head_moves (index : Nat) (head : LockRequest)
    (others : List LockRequest) (split : journey.line index = head :: others)
    (operation : Operation)
    (found : (journey.hubs index).operation? head.ticket = some operation) :
    ∃ later, index ≤ later ∧ (head ∉ journey.line later ∨
      ∃ next rest hub heard, journey.line later = head :: rest ∧
        (journey.hubs later).operation? head.ticket = some next ∧
        Hub.Motion hub head.ticket operation next heard) := by
  have due := (journey.hubs index).front_due (lined index) head others split
  obtain ⟨later, order, changed⟩ := fair index head.ticket due
  obtain ⟨distance, rfl⟩ := Nat.exists_eq_add_of_le order
  obtain ⟨last, onward, kept, ends⟩ := ceases
    (fun other => (journey.hubs other).operation? head.ticket =
      (journey.hubs index).operation? head.ticket) index distance rfl changed
  have stays : ∀ other, index ≤ other → other ≤ last →
      head ∈ journey.line other := by
    obtain ⟨asking, present, side⟩ := (lined index).entitled head
      (by rw [line] at split; simp [split])
    intro other first within
    exact (lined other).asks head.ticket asking head.mode
      ((kept other first within).trans present) side
  obtain ⟨sooner, rest, fewer, here⟩ := journey.ahead_stays lined index last head
    [] others split onward stays
  obtain ⟨step, reacted, next⟩ := journey.goes last
  have standing := (kept last onward (Nat.le_refl _)).trans found
  refine ⟨last + 1, Nat.le_succ_of_le onward, ?_⟩
  rw [next] at ends
  rw [line, next]
  rcases (journey.hubs last).ahead_react _ _ step (lined last) reacted head
    sooner rest here with ⟨left, _⟩ | ⟨⟨first, behind, shorter, split⟩, kept⟩
  · exact Or.inl left
  · right
    obtain ⟨moved, present, _⟩ := kept operation standing
    rw [List.sublist_nil.mp (shorter.trans fewer), List.nil_append] at split
    cases (journey.hubs last).react_fate _ _ step head.ticket
      (lined last).consistent reacted with
    | stays same began ended =>
        exact absurd (same.trans (standing.trans found.symm)) ends
    | begins fresh named calm before after began ended =>
        rw [standing] at before
        cases before
    | moves old later heard motion before after began ended outcomes =>
        rw [standing] at before
        cases before
        exact ⟨later, behind, _, heard, split, after, motion⟩
    | answers old registry reply answer before after listeners replied began
        ended =>
        rw [present] at after
        cases after
    | drops old before after silent began ended =>
        rw [present] at after
        cases after

/-- A walk at the head of the line comes to its end. -/
theorem walk_leaves (pending : List Listener) (index : Nat)
    (head : LockRequest) (others : List LockRequest)
    (split : journey.line index = head :: others) (operation : Operation)
    (delivery : Delivery) (report : DispatchReport)
    (found : (journey.hubs index).operation? head.ticket = some operation)
    (walks : operation.fanOut? = some (delivery, .calling pending report)) :
    ∃ later, index ≤ later ∧ head ∉ journey.line later := by
  induction pending generalizing index others operation report with
  | nil =>
      obtain ⟨later, order, left | ⟨next, rest, hub, heard, _, _, motion⟩⟩ :=
        journey.head_moves fair lined index head others split operation found
      · exact ⟨later, order, left⟩
      · cases motion with
        | scans somebody => cases walks
        | fetches alarms => cases walks
        | walks _ _ carried held waits walking =>
            rw [waits] at walks
            cases walks
        | hears _ _ carried listener rest counted outcome called calls =>
            rw [called] at walks
            cases walks
  | cons listener rest ih =>
      obtain ⟨later, order, left | ⟨next, behind, hub, heard, here, present,
          motion⟩⟩ :=
        journey.head_moves fair lined index head others split operation found
      · exact ⟨later, order, left⟩
      · cases motion with
        | scans somebody => cases walks
        | fetches alarms => cases walks
        | walks _ _ carried held waits walking =>
            rw [waits] at walks
            cases walks
        | hears _ _ carried listener rest counted outcome called calls =>
            rw [called] at walks
            cases walks
            obtain ⟨last, further, left⟩ :=
              ih later behind here next _ present calls
            exact ⟨last, Nat.le_trans order further, left⟩

/-- Whoever stands first leaves the line. -/
theorem head_leaves (index : Nat) (head : LockRequest)
    (others : List LockRequest)
    (split : journey.line index = head :: others) :
    ∃ later, index ≤ later ∧ head ∉ journey.line later := by
  obtain ⟨operation, found, side⟩ := (lined index).entitled head
    (by rw [line] at split; simp [split])
  obtain ⟨later, order, left | ⟨next, rest, hub, heard, here, present, motion⟩⟩ :=
    journey.head_moves fair lined index head others split operation found
  · exact ⟨later, order, left⟩
  · -- Whoever has moved on is inside of a walk: it still stands in the line.
    have walks : ∀ delivery pending report,
        next.fanOut? = some (delivery, .calling pending report) →
          ∃ last, index ≤ last ∧ head ∉ journey.line last := by
      intro delivery pending report walking
      obtain ⟨last, further, left⟩ := journey.walk_leaves fair lined pending later
        head rest here next delivery report present walking
      exact ⟨last, Nat.le_trans order further, left⟩
    cases motion with
    | scans somebody =>
        obtain ⟨reading, same, asks⟩ := (lined later).entitled head
          (by rw [line] at here; simp [here])
        rw [present] at same
        cases same
        cases asks
    | fetches alarms => cases side
    | walks _ _ delivery held waits walking => exact walks delivery _ _ walking
    | hears _ _ delivery listener behind counted outcome called calls =>
        exact walks delivery _ _ calls

/-- Everybody leaves the line. -/
theorem entry_leaves (index : Nat) (entry : LockRequest)
    (before after : List LockRequest)
    (split : journey.line index = before ++ entry :: after) :
    ∃ later, index ≤ later ∧ entry ∉ journey.line later := by
  induction count : before.length using Nat.strong_induction_on
    generalizing index before after with
  | _ places ih =>
      cases before with
      | nil => exact journey.head_leaves fair lined index entry after split
      | cons head rest =>
          obtain ⟨later, order, left⟩ :=
            journey.head_leaves fair lined index head _ split
          by_cases stays : ∀ other, index ≤ other → other ≤ later →
              entry ∈ journey.line other
          · obtain ⟨sooner, behind, fewer, here⟩ := journey.ahead_stays lined
              index later entry _ after split order stays
            -- The head has left, so there is one place less before the entry.
            have shorter : sooner.length < places := by
              cases fewer with
              | cons _ within =>
                  rw [← count]
                  exact Nat.lt_succ_of_le within.length_le
              | cons_cons _ within =>
                  rw [here] at left
                  exact absurd List.mem_cons_self left
            obtain ⟨last, further, gone⟩ := ih _ shorter later sooner behind here
              rfl
            exact ⟨last, Nat.le_trans order further, gone⟩
          · push Not at stays
            obtain ⟨other, first, _, gone⟩ := stays
            exact ⟨other, first, gone⟩

/-- Whoever asks for the lock is gone at last or goes to read the source. -/
theorem asking_leaves (index : Nat) (id : OperationId) (operation : Operation)
    (mode : LockMode)
    (found : (journey.hubs index).operation? id = some operation)
    (side : operation.lockSide? = some mode) :
    ∃ last current, index ≤ last ∧
      (journey.hubs last).operation? id = some current ∧
      operation.Becomes current ∧
      ((journey.hubs (last + 1)).operation? id = none ∨
        current = .tick .checking ∧
        (journey.hubs (last + 1)).operation? id = some (.tick .scanning)) := by
  have member := (lined index).asks id operation mode found side
  obtain ⟨before, after, split⟩ := List.mem_iff_append.mp member
  obtain ⟨later, order, left⟩ := journey.entry_leaves fair lined index ⟨id, mode⟩
    before after split
  obtain ⟨distance, rfl⟩ := Nat.exists_eq_add_of_le order
  obtain ⟨last, onward, kept, ends⟩ := ceases
    (fun other => ⟨id, mode⟩ ∈ journey.line other) index distance member left
  obtain ⟨current, here, becomes⟩ := journey.becomes_stays lined index last
    ⟨id, mode⟩ operation found onward kept
  obtain ⟨step, reacted, next⟩ := journey.goes last
  obtain ⟨sooner, behind, place⟩ :=
    List.mem_iff_append.mp (kept last onward (Nat.le_refl _))
  refine ⟨last, current, onward, here, becomes, ?_⟩
  rw [line, next] at ends
  rw [next]
  rcases (journey.hubs last).ahead_react _ _ step (lined last) reacted _ sooner
    behind place with ⟨_, gone | ⟨checks, scans⟩⟩ | ⟨⟨first, rest, _, split⟩, _⟩
  · exact Or.inl gone
  · rw [here] at checks
    exact Or.inr ⟨Option.some.inj checks, scans⟩
  · exact absurd (by rw [split]; simp) ends

/-! ## The end of a tick -/

/-- A fan-out comes to its end. -/
theorem fanOut_ends (index : Nat) (id : OperationId) (operation : Operation)
    (delivery : Delivery) (fanOut : FanOut)
    (found : (journey.hubs index).operation? id = some operation)
    (carries : operation.fanOut? = some (delivery, fanOut)) :
    ∃ last, index ≤ last ∧ id ∈ (journey.hubs last).inFlight ∧
      (journey.hubs (last + 1)).operation? id = none := by
  have side := operation.lockSide?_fanOut delivery fanOut carries
  obtain ⟨last, current, order, here, becomes, gone | ⟨rfl, _⟩⟩ :=
    journey.asking_leaves fair lined index id operation .shared found side
  · exact ⟨last, order, ((journey.hubs last).mem_inFlight id).mpr ⟨_, here⟩,
      gone⟩
  · have same := operation.becomes_plain _ becomes rfl
    rw [same] at carries
    cases carries

/-- The source answers, and the scan is fanned out. -/
theorem scanning_ends (index : Nat) (id : OperationId)
    (found : (journey.hubs index).operation? id = some (.tick .scanning)) :
    ∃ last, index ≤ last ∧ id ∈ (journey.hubs last).inFlight ∧
      (journey.hubs (last + 1)).operation? id = none := by
  have reading := ((journey.hubs index).isScanning_iff id).mpr found
  have due : (journey.hubs index).IsDue id :=
    Or.inr (Or.inl (by simp [Hub.isOutside, reading]))
  obtain ⟨later, order, changed⟩ := fair index id due
  obtain ⟨distance, rfl⟩ := Nat.exists_eq_add_of_le order
  obtain ⟨last, onward, kept, ends⟩ := ceases
    (fun other => (journey.hubs other).operation? id =
      (journey.hubs index).operation? id) index distance rfl changed
  have standing := (kept last onward (Nat.le_refl _)).trans found
  have present : id ∈ (journey.hubs last).inFlight :=
    ((journey.hubs last).mem_inFlight id).mpr ⟨_, standing⟩
  obtain ⟨step, reacted, next⟩ := journey.goes last
  cases (journey.hubs last).react_fate _ _ step id (lined last).consistent
    reacted with
  | stays same began ended =>
      rw [next] at ends
      exact absurd (same.trans (standing.trans found.symm)) ends
  | begins fresh named calm before after began ended =>
      rw [standing] at before
      cases before
  | moves old moved heard motion before after began ended outcomes =>
      rw [standing] at before
      cases before
      cases motion with
      | fetches alarms =>
          obtain ⟨final, further, here, gone⟩ := journey.fanOut_ends fair lined
            (last + 1) id _ _ _ (next ▸ after) rfl
          exact ⟨final, Nat.le_trans onward (Nat.le_of_succ_le further), here,
            gone⟩
      | walks _ _ delivery held waits walking => cases waits
      | hears _ _ delivery listener rest report outcome called calls =>
          cases called
  | answers old registry reply answer before after listeners replied began
      ended => exact ⟨last, onward, present, next ▸ after⟩
  | drops old before after silent began ended =>
      exact ⟨last, onward, present, next ▸ after⟩

/-- Every tick comes to its end. -/
theorem tick_ends (index : Nat) (id : OperationId) (phase : TickPhase)
    (found : (journey.hubs index).operation? id = some (.tick phase)) :
    ∃ last, index ≤ last ∧ id ∈ (journey.hubs last).inFlight ∧
      (journey.hubs (last + 1)).operation? id = none := by
  cases phase with
  | checking =>
      obtain ⟨last, current, order, here, _, gone | ⟨_, scans⟩⟩ :=
        journey.asking_leaves fair lined index id _ .shared found rfl
      · exact ⟨last, order, ((journey.hubs last).mem_inFlight id).mpr ⟨_, here⟩,
          gone⟩
      · obtain ⟨final, further, present, gone⟩ :=
          journey.scanning_ends fair lined (last + 1) id scans
        exact ⟨final, Nat.le_trans order (Nat.le_of_succ_le further), present,
          gone⟩
  | scanning => exact journey.scanning_ends fair lined index id found
  | delivering alarms fanOut =>
      exact journey.fanOut_ends fair lined index id _ _ fanOut found rfl

end

/-! ## Runs that come to rest -/

section

variable (hub final : Hub) (timeline : Timeline)
  (reached : hub.run timeline = some final)

/-- The hub after so many events of a run, and at its end from then on. -/
def restingHub (index : Nat) : Hub :=
  (hub.run (timeline.take index)).getD final

include reached

theorem restingHub_run (index : Nat) :
    hub.run (timeline.take index) = some (restingHub hub final timeline index) := by
  rw [← List.take_append_drop index timeline] at reached
  obtain ⟨middle, first, _⟩ := (Hub.run_append _ _ _ _).mp reached
  rw [restingHub, first]
  rfl

theorem restingHub_settled (index : Nat) (beyond : timeline.length ≤ index) :
    restingHub hub final timeline index = final := by
  rw [restingHub, List.take_of_length_le beyond, reached]
  rfl

variable (isOpen : final.closed = false) (stopped : final.isRunning = false)

include isOpen stopped

theorem restingHub_goes (index : Nat) : ∃ step,
    (restingHub hub final timeline index).react
        (((timeline[index]?).map Prod.fst).getD ⟨0⟩)
        (((timeline[index]?).map Prod.snd).getD (.start false)) = some step ∧
      restingHub hub final timeline (index + 1) = step.hub := by
  by_cases within : index < timeline.length
  · have next := restingHub_run hub final timeline reached (index + 1)
    rw [← List.take_append_getElem within, Hub.run_append] at next
    obtain ⟨middle, first, second⟩ := next
    rw [restingHub_run hub final timeline reached index] at first
    cases first
    obtain ⟨step, reacted, same⟩ := (Hub.run_singleton _ _ _ _).mp second
    refine ⟨step, ?_, same.symm⟩
    simpa [within] using reacted
  · -- From the end of the run on a start outside of the runtime is refused for ever.
    have beyond : timeline.length ≤ index := Nat.le_of_not_lt within
    have rests : ∀ now, final.react now (.start false) =
        some ⟨final, [], none⟩ := by
      intro now
      simp [Hub.react, Hub.start, isOpen, stopped]
    rw [restingHub_settled hub final timeline reached index beyond,
      restingHub_settled hub final timeline reached (index + 1)
        (Nat.le_succ_of_le beyond),
      List.getElem?_eq_none beyond]
    exact ⟨_, rests _, rfl⟩

omit reached isOpen stopped in
/-- A run and nothing else ever after. -/
def resting (reached : hub.run timeline = some final)
    (isOpen : final.closed = false) (stopped : final.isRunning = false) :
    Journey where
  hubs := restingHub hub final timeline
  times := fun index => ((timeline[index]?).map Prod.fst).getD ⟨0⟩
  events := fun index => ((timeline[index]?).map Prod.snd).getD (.start false)
  goes := restingHub_goes hub final timeline reached isOpen stopped

theorem resting_fair (idle : final.operations = []) :
    (resting hub final timeline reached isOpen stopped).IsFair := by
  intro index id due
  obtain ⟨operation, found⟩ :=
    (Hub.mem_inFlight _ id).mp (Hub.due_inFlight _ id due)
  refine ⟨index + timeline.length, Nat.le_add_right _ _, ?_⟩
  have nothing : (restingHub hub final timeline
      (index + timeline.length)).operation? id = none := by
    rw [restingHub_settled hub final timeline reached _ (Nat.le_add_left _ _),
      Hub.operation?, idle]
    rfl
  rw [found]
  exact fun same =>
    absurd (same.symm.trans nothing) (Option.some_ne_none operation)

/-- A run that leaves nothing in flight is the beginning of a fair journey on which
nothing else happens. -/
theorem exists_resting (idle : final.operations = []) :
    ∃ journey : Journey, journey.hubs 0 = hub ∧ journey.IsFair ∧
      ∀ index, (∃ entry ∈ timeline, journey.events index = entry.2) ∨
        journey.events index = .start false := by
  refine ⟨resting hub final timeline reached isOpen stopped, rfl,
    resting_fair hub final timeline reached isOpen stopped idle, ?_⟩
  intro index
  cases here : timeline[index]? with
  | none => exact Or.inr (by simp [resting, here])
  | some entry =>
      exact Or.inl ⟨entry, List.mem_of_getElem? here, by simp [resting, here]⟩

end

end Journey
end AlarmRelay
