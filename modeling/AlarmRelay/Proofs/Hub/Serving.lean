import AlarmRelay.Proofs.Hub.Alone

/-!
# Serving a call

However a call of a script is served, it does what its prospect says, and however
far it has been served, it can be served to its end.
-/

set_option autoImplicit false

namespace AlarmRelay

theorem Mark.heeds_append (stream : Nat → CallOutcome)
    (first second : List Mark) (left : Heeds stream first)
    (right : Heeds (fun index => stream ((verdicts first).length + index))
      second) : Heeds stream (first ++ second) := by
  rw [Heeds, verdicts_append, List.length_append, List.range_add,
    List.map_append, List.map_map, ← left]
  rw [Heeds] at right
  conv => lhs; rw [right]
  rfl

namespace Hub

/-! ## Served by itself -/

theorem stage_run (hub final : Hub) (id : OperationId) (call : ScriptCall)
    (operation : Operation) (timeline : Timeline)
    (alone : hub.Alone id operation) (scripted : operation.Scripted)
    (served : ∀ entry ∈ timeline, call.Serves id entry.2)
    (reached : hub.run timeline = some final) :
    Stage hub id call.scan operation timeline.length (hub.journal timeline)
      final := by
  induction timeline generalizing hub operation with
  | nil =>
      simp only [run, Option.some.injEq] at reached
      subst final
      exact .underWay operation scripted alone rfl (Prospect.spends_nothing _)
  | cons entry rest ih =>
      obtain ⟨now, event⟩ := entry
      obtain ⟨step, reacted, restRun⟩ := (run_cons _ _ _ _ _).mp reached
      have first := served (now, event) List.mem_cons_self
      have others := fun entry member =>
        served entry (List.mem_cons_of_mem _ member)
      rw [hub.journal_cons now event rest step reacted, List.length_cons,
        Nat.add_comm]
      cases hub.serves_stage id operation step call now event alone scripted first
        reacted with
      | underWay later laterScripted laterAlone listeners spends =>
          cases ih step.hub later laterAlone laterScripted others restRun with
          | underWay last lastScripted lastAlone same more =>
              rw [listeners] at more
              exact .underWay last lastScripted lastAlone (same.trans listeners)
                (Prospect.spends_trans _ _ _ _ _ _ _ spends more)
          | isOver resting fulfilled =>
              rw [listeners] at fulfilled
              exact .isOver resting
                (Prospect.fulfilled_after _ _ _ _ _ _ _ spends fulfilled)
      | isOver resting fulfilled =>
          cases rest with
          | nil =>
              simp only [run, Option.some.injEq] at restRun
              subst final
              refine .isOver resting ?_
              simpa [journal, observe] using fulfilled
          | cons entry rest =>
              obtain ⟨later, event⟩ := entry
              have refused := step.hub.resting_refuses id call later event resting
                (others (later, event) List.mem_cons_self)
              simp [run, refused] at restRun

/-- Some event serves the operation `id`, and its listener, should one answer,
answers as `stream` says. -/
def Progresses (hub : Hub) (id : OperationId) (call : ScriptCall) (now : Instant)
    (stream : Nat → CallOutcome) : Prop :=
  ∃ event step, call.Serves id event ∧ hub.react now event = some step ∧
    Mark.Heeds stream (hub.marks event step)

section

variable (hub : Hub) (id : OperationId) (call : ScriptCall)
  (operation : Operation) (now : Instant) (stream : Nat → CallOutcome)

theorem progresses_advance (advances : (hub.advance id).isSome = true) :
    hub.Progresses id call now stream := by
  obtain ⟨step, advanced⟩ := Option.isSome_iff_exists.mp advances
  refine ⟨.advance id, step, .advance, advanced, ?_⟩
  rw [Mark.Heeds, marks_verdicts]
  rfl

theorem progresses_fanOut (delivery : Delivery) (fanOut : FanOut)
    (alone : hub.Alone id operation)
    (carries : operation.fanOut? = some (delivery, fanOut)) :
    hub.Progresses id call now stream := by
  have found := hub.alone_found id operation alone
  cases fanOut with
  | awaitingLock =>
      have held : hub.registry.lock.holdsShared id = true := by
        rw [alone.lock, operation.ownLock_fanOut delivery _ carries]
        simp [FairLock.holdsShared]
      apply hub.progresses_advance id call now stream
      rw [hub.advance_awaiting id operation delivery found carries, if_pos held]
      rfl
  | calling pending report =>
      cases pending with
      | nil =>
          obtain ⟨signals, advanced⟩ :=
            hub.advance_walked id operation delivery found report carries
          apply hub.progresses_advance id call now stream
          rw [advanced]
          rfl
      | cons listener rest =>
          have inside : hub.call? id = some (listener, delivery) :=
            (hub.call?_fanOut id listener delivery).mpr
              ⟨operation, rest, report, found, carries⟩
          obtain ⟨signals, reacted⟩ := hub.react_answerCall id operation delivery
            found now (stream 0) listener rest report carries
          refine ⟨.answerCall id (stream 0), _, .answerCall _, reacted, ?_⟩
          rw [Mark.Heeds, marks_verdicts]
          simp [endMarks, inside, Mark.verdicts]

/-- An operation that is served by itself is never stuck. -/
theorem serves_progress (alone : hub.Alone id operation)
    (scripted : operation.Scripted) : hub.Progresses id call now stream := by
  have found := hub.alone_found id operation alone
  have lock := alone.lock
  cases operation with
  | add listener =>
      apply hub.progresses_advance id call now stream
      simp [advance, found, lock, Operation.ownLock, FairLock.holdsExclusive]
  | remove listener =>
      apply hub.progresses_advance id call now stream
      simp [advance, found, lock, Operation.ownLock, FairLock.holdsExclusive]
  | deliver delivery cause fanOut =>
      exact hub.progresses_fanOut id call _ now stream delivery fanOut alone rfl
  | tick phase =>
      cases phase with
      | checking =>
          apply hub.progresses_advance id call now stream
          cases nobody : hub.registry.listeners.isEmpty <;>
            simp [advance, found, lock, Operation.ownLock, FairLock.holdsShared,
              nobody]
      | scanning =>
          have reading := (hub.isScanning_iff id).mpr found
          refine ⟨.answerScan id call.scan, hub.answerScan id call.scan,
            .answerScan, by simp [react, reading], ?_⟩
          rw [Mark.Heeds, marks_verdicts]
          rfl
      | delivering alarms fanOut =>
          exact hub.progresses_fanOut id call _ now stream (.snapshot alarms)
            fanOut alone rfl
  | _ => cases scripted

end

/-- Whatever the listeners answer, an operation by itself can be served to its
end. -/
theorem serves_to_end (hub : Hub) (id : OperationId) (call : ScriptCall)
    (operation : Operation) (now : Instant) (stream : Nat → CallOutcome)
    (alone : hub.Alone id operation) (scripted : operation.Scripted) :
    ∃ timeline final, hub.run timeline = some final ∧
      (∀ entry ∈ timeline, call.Serves id entry.2) ∧ final.Resting ∧
        Mark.Heeds stream (hub.journal timeline) := by
  -- Every event takes at least one off the steps of the prospect.
  generalize bounded : (operation.prospect hub.registry.listeners
    call.scan).steps = bound
  induction bound using Nat.strongRecOn generalizing hub operation stream with
  | ind bound ih =>
      obtain ⟨event, step, serves, reacted, heeds⟩ :=
        hub.serves_progress id call operation now stream alone scripted
      cases hub.serves_stage id operation step call now event alone scripted serves
        reacted with
      | isOver resting fulfilled =>
          refine ⟨[(now, event)], step.hub, ?_, ?_, resting, ?_⟩
          · simp [run, reacted]
          · intro entry member
            rw [List.mem_singleton.mp member]
            exact serves
          · rw [hub.journal_cons now event [] step reacted]
            simpa [journal, observe] using heeds
      | underWay later laterScripted laterAlone listeners spends =>
          have fewer : (later.prospect step.hub.registry.listeners
              call.scan).steps < bound := by
            have spent := spends.steps
            rw [listeners]
            omega
          obtain ⟨rest, final, reached, served, resting, others⟩ :=
            ih _ fewer step.hub later
              (fun index => stream
                ((Mark.verdicts (hub.marks event step)).length + index))
              laterAlone laterScripted rfl
          refine ⟨(now, event) :: rest, final, ?_, ?_, resting, ?_⟩
          · exact (run_cons _ _ _ _ _).mpr ⟨step, reacted, reached⟩
          · intro entry member
            rcases List.mem_cons.mp member with here | there
            · rw [here]
              exact serves
            · exact served entry there
          · rw [hub.journal_cons now event rest step reacted]
            exact Mark.heeds_append stream _ _ heeds others

end Hub
end AlarmRelay
