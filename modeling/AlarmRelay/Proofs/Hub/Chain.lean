import AlarmRelay.Proofs.Hub.Step
import Mathlib.Logic.Relation

/-!
# The chain of loops

Seen without clocks and ticks, a hub's loops form a chain: each loop waits for
the one spawned just before it, only the last one can be owned, and a loop that
does not wait any more has nothing but finished loops before it.  A start
extends the chain, `Move` lists the four ways in which it changes otherwise,
`Linked` is the invariant that all of them keep, and `rank` never falls.
-/

set_option autoImplicit false

namespace AlarmRelay

/-- How far a loop has got. -/
inductive Stage where
  | waiting (previous : Option LoopId)
  | inside
  | isOver
  deriving DecidableEq, Repr

/-- A loop without its clock and its ticks. -/
structure Link where
  cancelled : Bool
  stage : Stage
  deriving DecidableEq, Repr

/-- The loops of a hub and the lifecycle that owns one of them. -/
structure Chain where
  interval : Duration
  links : List Link
  task : Option LoopId
  latest : Option LoopId
  deriving DecidableEq, Repr

def Stage.rank : Stage → Nat
  | .waiting _ => 0
  | .inside => 1
  | .isOver => 2

/-- The link after its shutdown was asked for. -/
def Link.cancel (link : Link) : Link :=
  { link with cancelled := true }

/-- The loop spawned just before another one. -/
def LoopId.previous? : Nat → Option LoopId
  | 0 => none
  | id + 1 => some id

namespace Chain

/-- No loop of this name is still under way. -/
def Over (chain : Chain) (id : Nat) : Prop :=
  ∀ link, chain.links[id]? = some link → link.stage = .isOver

/-- The chain with one loop in another stage. -/
def put (chain : Chain) (id : Nat) (stage : Stage) : Chain :=
  { chain with
    links := chain.links.modify id fun link => { link with stage := stage } }

/-- The chain whose owned loop is asked to shut down and owned no longer. -/
def release (chain : Chain) (id : Nat) : Chain :=
  { chain with links := chain.links.modify id Link.cancel, task := none }

/-- The chain with a new loop behind the one spawned last. -/
def extend (chain : Chain) : Chain :=
  { chain with
    links := chain.links ++ [⟨false, .waiting chain.latest⟩]
    task := some chain.links.length
    latest := some chain.links.length }

/-- One change of the chain that spawns no loop. -/
inductive Move : Chain → Chain → Prop where
  /-- A stop or the end of the hub takes the owned loop. -/
  | release (chain : Chain) (id : Nat) (owned : chain.task = some id) :
      Move chain (chain.release id)
  /-- A loop enters its schedule once the loop it waits for is over. -/
  | enter (chain : Chain) (id : Nat) (cancelled : Bool)
      (previous : Option LoopId)
      (found : chain.links[id]? = some ⟨cancelled, .waiting previous⟩)
      (free : ∀ loop, previous = some loop → chain.Over loop) :
      Move chain (chain.put id .inside)
  /-- A loop inside its schedule exits. -/
  | exit (chain : Chain) (id : Nat) (cancelled : Bool)
      (found : chain.links[id]? = some ⟨cancelled, .inside⟩) :
      Move chain (chain.put id .isOver)
  /-- A loop is killed, the ones before it having been killed already. -/
  | kill (chain : Chain) (id : Nat)
      (earlier : ∀ other, other < id → chain.Over other) :
      Move chain (chain.put id .isOver)

/-- The invariant of the chain. -/
structure Linked (chain : Chain) : Prop where
  latest : chain.latest = LoopId.previous? chain.links.length
  /-- A loop that waits does so for the one spawned just before it. -/
  waits : ∀ (id : Nat) cancelled previous,
    chain.links[id]? = some ⟨cancelled, .waiting previous⟩ →
      previous = LoopId.previous? id
  /-- A loop that does not wait has only finished loops before it. -/
  order : ∀ (first second : Nat) link, first < second →
    chain.links[second]? = some link →
      0 < link.stage.rank → chain.Over first
  /-- A loop under way that nobody asked to shut down is the owned one. -/
  live : ∀ (id : Nat) stage, chain.links[id]? = some ⟨false, stage⟩ →
    stage ≠ .isOver → chain.task = some id
  /-- The owned loop is the last one, and nobody asked it to shut down. -/
  owned : ∀ id, chain.task = some id → chain.latest = some id ∧
    ∃ stage, chain.links[id]? = some ⟨false, stage⟩

theorem links_put (chain : Chain) (id other : Nat) (stage : Stage) :
    (chain.put id stage).links[other]? =
      if id = other then
        (chain.links[other]?).map fun link => { link with stage := stage }
      else chain.links[other]? := by
  simp only [put, List.getElem?_modify]
  split <;> simp

theorem put_same (chain : Chain) (id : Nat) (cancelled : Bool) (stage : Stage)
    (found : chain.links[id]? = some ⟨cancelled, stage⟩) :
    chain.put id stage = chain := by
  have links : (chain.put id stage).links = chain.links := by
    apply List.ext_getElem?
    intro other
    rw [links_put]
    split
    · rename_i same
      subst same
      rw [found]
      rfl
    · rfl
  exact congrArg (fun links => { chain with links := links }) links

theorem links_release (chain : Chain) (id other : Nat) :
    (chain.release id).links[other]? =
      if id = other then (chain.links[other]?).map Link.cancel
      else chain.links[other]? := by
  simp only [release, List.getElem?_modify]
  split <;> simp

theorem over_put (chain : Chain) (id other : Nat) (stage : Stage)
    (isOver : chain.Over other) (kept : id = other → stage = .isOver) :
    (chain.put id stage).Over other := by
  intro link found
  rw [links_put] at found
  split at found
  · rename_i same
    obtain ⟨before, _, rfl⟩ := Option.map_eq_some_iff.mp found
    exact kept same
  · exact isOver link found

theorem over_release (chain : Chain) (id other : Nat)
    (isOver : chain.Over other) : (chain.release id).Over other := by
  intro link found
  rw [links_release] at found
  split at found
  · obtain ⟨before, present, rfl⟩ := Option.map_eq_some_iff.mp found
    exact isOver before present
  · exact isOver link found

/-! ## What every change keeps -/

theorem linked_release (chain : Chain) (id : Nat) (linked : chain.Linked)
    (owned : chain.task = some id) : (chain.release id).Linked where
  latest := by simpa [release] using linked.latest
  waits := by
    intro other cancelled previous found
    rw [links_release] at found
    split at found
    · obtain ⟨before, present, same⟩ := Option.map_eq_some_iff.mp found
      cases before with
      | mk flag stage =>
          cases same
          exact linked.waits other flag previous present
    · exact linked.waits other cancelled previous found
  order := by
    intro first second link before found begun
    apply over_release
    rw [links_release] at found
    split at found
    · obtain ⟨old, present, rfl⟩ := Option.map_eq_some_iff.mp found
      exact linked.order first second old before present begun
    · exact linked.order first second link before found begun
  live := by
    -- The owned loop was the only one that nobody had asked to shut down.
    intro other stage found underWay
    rw [links_release] at found
    split at found
    · obtain ⟨old, _, same⟩ := Option.map_eq_some_iff.mp found
      cases same
    · rename_i different
      have sameOwner := linked.live other stage found underWay
      rw [owned] at sameOwner
      exact absurd (Option.some.inj sameOwner) different
  owned := by
    intro other taken
    cases taken

theorem linked_extend (chain : Chain) (linked : chain.Linked)
    (free : ∀ id, chain.task = some id → chain.Over id) :
    chain.extend.Linked where
  latest := by simp [extend, LoopId.previous?]
  waits := by
    intro id cancelled previous found
    simp only [extend, List.getElem?_append] at found
    split at found
    · exact linked.waits id cancelled previous found
    · rename_i beyond
      have last : id = chain.links.length := by
        have bound := (List.getElem?_eq_some_iff.mp found).1
        simp only [List.length_singleton] at bound
        omega
      subst last
      simp only [Nat.sub_self, List.getElem?_cons_zero, Option.some.injEq,
        Link.mk.injEq, Stage.waiting.injEq] at found
      rw [← found.2]
      exact linked.latest
  order := by
    intro first second link before found begun
    have inside : second < chain.links.length := by
      rcases Nat.lt_or_ge second chain.links.length with inside | beyond
      · exact inside
      · simp only [extend, List.getElem?_append,
          if_neg (Nat.not_lt.mpr beyond)] at found
        obtain ⟨bound, present⟩ := List.getElem?_eq_some_iff.mp found
        simp only [List.getElem_singleton] at present
        subst present
        simp [Stage.rank] at begun
    simp only [extend, List.getElem?_append, if_pos inside] at found
    intro earlier present
    have within : first < chain.links.length := by omega
    simp only [extend, List.getElem?_append, if_pos within] at present
    exact linked.order first second link before found begun earlier present
  live := by
    -- A start spawns only where the owned loop is over, so none is live.
    intro id stage found underWay
    simp only [extend, List.getElem?_append] at found ⊢
    split at found
    · have owner := linked.live id stage found underWay
      exact absurd (free id owner _ found) underWay
    · rename_i beyond
      have bound := (List.getElem?_eq_some_iff.mp found).1
      simp only [List.length_singleton] at bound
      have last : id = chain.links.length := by omega
      rw [last]
  owned := by
    intro id taken
    simp only [extend, Option.some.injEq] at taken
    subst taken
    exact ⟨rfl, .waiting chain.latest, by simp [extend]⟩

theorem linked_put (chain : Chain) (id : Nat) (stage : Stage)
    (linked : chain.Linked) (begun : 0 < stage.rank)
    (earlier : ∀ other, other < id → chain.Over other)
    (grows : ∀ link, chain.links[id]? = some link →
      link.stage = .isOver → stage = .isOver) :
    (chain.put id stage).Linked where
  latest := by simpa [put] using linked.latest
  waits := by
    intro other cancelled previous found
    rw [links_put] at found
    split at found
    · obtain ⟨before, _, same⟩ := Option.map_eq_some_iff.mp found
      cases same
      simp [Stage.rank] at begun
    · exact linked.waits other cancelled previous found
  order := by
    intro first second link before found moved
    rw [links_put] at found
    split at found
    · rename_i same
      subst same
      exact over_put chain id first stage (earlier first before)
        (by intro same; omega)
    · have isOver := linked.order first second link before found moved
      apply over_put chain id first stage isOver
      intro same
      subst same
      obtain ⟨present, _⟩ := List.getElem?_eq_some_iff.mp found
      have exists_first : id < chain.links.length := by omega
      have here := List.getElem?_eq_getElem exists_first
      exact grows _ here (isOver _ here)
  live := by
    intro other other_stage found underWay
    rw [links_put] at found
    split at found
    · rename_i same
      subst same
      obtain ⟨before, present, same⟩ := Option.map_eq_some_iff.mp found
      cases before with
      | mk flag old =>
          cases same
          exact linked.live id old present
            (fun isOver => underWay (grows _ present isOver))
    · exact linked.live other other_stage found underWay
  owned := by
    intro other taken
    obtain ⟨last, old, present⟩ := linked.owned other taken
    refine ⟨last, ?_⟩
    rw [links_put, present]
    split
    · exact ⟨stage, rfl⟩
    · exact ⟨old, rfl⟩

theorem linked_move (chain next : Chain) (linked : chain.Linked)
    (move : Move chain next) : next.Linked := by
  cases move with
  | release id owned => exact linked_release chain id linked owned
  | enter id cancelled previous found free =>
      apply linked_put chain id .inside linked (by simp [Stage.rank])
      · -- The loop just before it is over, and it was the last to begin.
        intro other before
        have behind := linked.waits id cancelled previous found
        cases id with
        | zero => omega
        | succ last =>
            have lastOver : chain.Over last := free last behind
            rcases Nat.lt_or_ge other last with sooner | later
            · have present : last < chain.links.length := by
                have bound := (List.getElem?_eq_some_iff.mp found).1
                omega
              have here := List.getElem?_eq_getElem present
              apply linked.order other last _ sooner here
              rw [lastOver _ here]
              simp [Stage.rank]
            · have same : other = last := by omega
              rw [same]
              exact lastOver
      · intro link present isOver
        rw [found] at present
        cases present
        cases isOver
  | exit id cancelled found =>
      apply linked_put chain id .isOver linked (by simp [Stage.rank])
      · intro other before
        exact linked.order other id _ before found (by simp [Stage.rank])
      · intro _ _ _
        rfl
  | kill id earlier =>
      exact linked_put chain id .isOver linked (by simp [Stage.rank]) earlier
        (fun _ _ _ => rfl)

/-! ## Progress -/

/-- Progress of one loop of the chain; a loop not yet spawned has made none. -/
def rank (chain : Chain) (id : Nat) : Nat :=
  ((chain.links[id]?).map fun link => link.stage.rank).getD 0

theorem rank_put (chain : Chain) (id other : Nat) (stage : Stage)
    (grows : chain.rank id ≤ stage.rank) :
    chain.rank other ≤ (chain.put id stage).rank other := by
  simp only [rank, links_put] at grows ⊢
  split
  · rename_i same
    subst same
    cases found : chain.links[id]? with
    | none => simp
    | some link => simpa [found] using grows
  · exact Nat.le_refl _

theorem rank_le_two (chain : Chain) (id : Nat) : chain.rank id ≤ 2 := by
  unfold rank
  cases chain.links[id]? with
  | none => simp
  | some link =>
      obtain ⟨cancelled, stage⟩ := link
      cases stage <;> simp [Stage.rank]

/-- No change sets a loop back. -/
theorem rank_move (chain next : Chain) (id : Nat) (move : Move chain next) :
    chain.rank id ≤ next.rank id := by
  cases move with
  | release taken owned =>
      simp only [rank, links_release]
      split
      · cases chain.links[id]? <;> simp [Link.cancel]
      · exact Nat.le_refl _
  | enter entered cancelled previous found free =>
      apply rank_put
      simp [rank, found, Stage.rank]
  | exit left cancelled found =>
      apply rank_put
      simp [rank, found, Stage.rank]
  | kill killed earlier => exact rank_put _ _ _ _ (rank_le_two chain killed)

theorem rank_extend (chain : Chain) (id : Nat) :
    chain.rank id ≤ chain.extend.rank id := by
  simp only [rank, extend, List.getElem?_append]
  split
  · exact Nat.le_refl _
  · rename_i beyond
    have absent : chain.links[id]? = none :=
      List.getElem?_eq_none (Nat.not_lt.mp beyond)
    simp [absent]

theorem rank_of_over (chain : Chain) (id : Nat) (isOver : chain.Over id)
    (spawned : id < chain.links.length) : chain.rank id = 2 := by
  have here := List.getElem?_eq_getElem spawned
  simp [rank, here, isOver _ here, Stage.rank]

theorem over_of_rank (chain : Chain) (id : Nat) (done : 2 ≤ chain.rank id) :
    chain.Over id := by
  intro link found
  simp only [rank, found, Option.map_some, Option.getD_some] at done
  obtain ⟨cancelled, stage⟩ := link
  cases stage with
  | waiting previous => simp [Stage.rank] at done
  | inside => simp [Stage.rank] at done
  | isOver => rfl

theorem length_move (chain next : Chain) (move : Move chain next) :
    next.links.length = chain.links.length := by
  cases move <;> simp [release, put]

abbrev Moves : Chain → Chain → Prop := Relation.ReflTransGen Move

theorem linked_moves (chain next : Chain) (linked : chain.Linked)
    (moves : Moves chain next) : next.Linked := by
  induction moves with
  | refl => exact linked
  | tail _ move ih => exact linked_move _ _ ih move

theorem length_moves (chain next : Chain) (moves : Moves chain next) :
    next.links.length = chain.links.length := by
  induction moves with
  | refl => rfl
  | tail _ move ih => exact (length_move _ _ move).trans ih

theorem interval_moves (chain next : Chain) (moves : Moves chain next) :
    next.interval = chain.interval := by
  induction moves with
  | refl => rfl
  | tail _ move ih =>
      refine Eq.trans ?_ ih
      cases move <;> rfl

/-- Only a start gives the lifecycle a loop to own. -/
theorem task_moves (chain next : Chain) (moves : Moves chain next)
    (free : chain.task = none) : next.task = none := by
  induction moves with
  | refl => exact free
  | tail _ move ih =>
      cases move with
      | release id owned => rfl
      | enter id cancelled previous found before => exact ih
      | exit id cancelled found => exact ih
      | kill id earlier => exact ih

theorem rank_moves (chain next : Chain) (id : Nat)
    (moves : Moves chain next) : chain.rank id ≤ next.rank id := by
  induction moves with
  | refl => exact Nat.le_refl _
  | tail _ move ih => exact Nat.le_trans ih (rank_move _ _ id move)

/-- A loop that is over stays so. -/
theorem over_moves (chain next : Chain) (id : Nat) (isOver : chain.Over id)
    (moves : Moves chain next) : next.Over id := by
  have length := length_moves chain next moves
  rcases Nat.lt_or_ge id chain.links.length with spawned | beyond
  · apply over_of_rank
    have done := rank_of_over chain id isOver spawned
    have kept := rank_moves chain next id moves
    omega
  · intro link found
    have within := (List.getElem?_eq_some_iff.mp found).1
    omega

end Chain
end AlarmRelay
