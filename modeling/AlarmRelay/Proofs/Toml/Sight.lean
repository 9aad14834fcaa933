import AlarmRelay.Proofs.Toml.Look

/-!
# A document shows what its text says

Statement by statement, what a draft shows at its places is what the statements so
far assert of them.  A place below tables that share a header shows nothing, and the
outermost such tables above a place are the ones that hide it.
-/

set_option autoImplicit false

namespace AlarmRelay.Toml

/-! ## Above and below a place -/

theorem Value.sight_above (value : Value) (place rest : List String)
    (sight : Sight) (below : rest ≠ [])
    (shown : value.sight (place ++ rest) = some sight) :
    value.sight place = some .table := by
  induction place generalizing value with
  | nil =>
      cases rest with
      | nil => exact absurd rfl below
      | cons name rest => cases value <;> first | rfl | cases shown
  | cons name place ih =>
      cases value with
      | table members =>
          simp only [List.cons_append, Value.sight, Option.bind_eq_some_iff]
            at shown ⊢
          obtain ⟨inner, found, shown⟩ := shown
          exact ⟨inner, found, ih inner shown⟩
      | _ => cases shown

/-- A value never shows tables that share a header. -/
theorem Value.sight_tables (value : Value) (place : List String) :
    value.sight place ≠ some .tables := by
  induction place generalizing value with
  | nil => cases value <;> simp [Value.sight]
  | cons name place ih =>
      cases value with
      | table members =>
          simp only [Value.sight, ne_eq, Option.bind_eq_some_iff, not_exists,
            not_and]
          exact fun inner _ => ih inner
      | _ => simp [Value.sight]

/-- Whatever shows at a place does so in tables. -/
theorem Nodes.look_above (members : Nodes) (place rest : List String)
    (look : Look) (below : rest ≠ [])
    (shown : members.look (place ++ rest) = some look) :
    members.look place = some (.sight .table) := by
  induction place generalizing members with
  | nil => rfl
  | cons name place ih =>
      rw [List.cons_append, look_cons, Option.bind_eq_some_iff] at shown
      obtain ⟨node, found, shown⟩ := shown
      rw [look_cons, found, Option.bind_some]
      cases node with
      | closed value =>
          obtain ⟨sight, shown, _⟩ := Option.map_eq_some_iff.mp shown
          rw [Node.look, value.sight_above place rest sight below shown]
          rfl
      | table origin inner => exact ih inner shown
      | tables items =>
          rw [Node.look, if_neg (by simp [below])] at shown
          cases shown

/-- Tables that share a header show nothing below them. -/
theorem Nodes.look_tables (members : Nodes) (header place : List String)
    (sight : Sight) (above : header <+: place)
    (tables : members.look header = some (.sight .tables))
    (shown : members.look place = some (.sight sight)) :
    header = place ∧ sight = .tables := by
  obtain ⟨rest, rfl⟩ := above
  cases rest with
  | nil =>
      rw [List.append_nil, tables] at shown
      cases shown
      exact ⟨(List.append_nil header).symm, rfl⟩
  | cons name rest =>
      rw [members.look_above header (name :: rest) _ (by simp) shown] at tables
      cases tables

/-- What is shown before stays. -/
theorem Shown.stays {asserted : Option Sight} {before after : Option Look}
    (shown : Shown asserted before after) (sight : Sight)
    (past : before = some (.sight sight)) : after = some (.sight sight) := by
  rcases shown with ⟨_, same⟩ | ⟨now, _, later, agrees⟩
  · rw [same, past]
  · rw [past] at agrees
    rcases agrees with agrees | agrees | agrees
    · cases agrees
    · cases agrees
    · cases agrees
      exact later

/-- What is asserted is shown. -/
theorem Shown.asserts {sight : Sight} {before after : Option Look}
    (shown : Shown (some sight) before after) : after = some (.sight sight) := by
  rcases shown with ⟨silent, _⟩ | ⟨now, said, later, _⟩
  · cases silent
  · cases said
    exact later

namespace Subject

section

variable (subject : Subject) (path place : List String)

theorem shows_way (above : place <+: path) (proper : place ≠ path) :
    subject.shows path place = some .table := by
  induction path generalizing place with
  | nil => exact absurd (List.prefix_nil.mp above) proper
  | cons key path ih =>
      cases place with
      | nil => rfl
      | cons name place =>
          obtain ⟨rfl, higher⟩ := List.cons_prefix_cons.mp above
          rw [shows, if_pos rfl]
          exact ih place higher (fun same => proper (congrArg _ same))

theorem shows_comparable (sight : Sight)
    (shown : subject.shows path place = some sight) :
    place <+: path ∨ path <+: place := by
  induction path generalizing place with
  | nil => exact Or.inr List.nil_prefix
  | cons key path ih =>
      cases place with
      | nil => exact Or.inl List.nil_prefix
      | cons name place =>
          rw [shows] at shown
          split at shown
          · rename_i same
            subst same
            simpa using ih place shown
          · cases shown

theorem shows_self : subject.shows path path = subject.sight [] := by
  induction path with
  | nil => rfl
  | cons key path ih => rw [shows, if_pos rfl, ih]

/-- Only a header of its own makes a place show tables that share one. -/
theorem shows_tables (shown : subject.shows path place = some .tables) :
    subject = .item ∧ path = place := by
  induction path generalizing place with
  | nil =>
      cases subject with
      | table =>
          simp only [shows, sight] at shown
          split at shown <;> cases shown
      | item =>
          simp only [shows, sight, Option.ite_none_right_eq_some] at shown
          exact ⟨rfl, shown.1.symm⟩
      | value given => exact absurd shown (given.sight_tables place)
  | cons key path ih =>
      cases place with
      | nil => cases shown
      | cons name place =>
          rw [shows] at shown
          split at shown
          · rename_i same
            obtain ⟨item, equal⟩ := ih place shown
            exact ⟨item, by rw [same, equal]⟩
          · cases shown

end

end Subject

/-! ## Statement by statement -/

/-- What members show at their places is what has been asserted of them. -/
structure Nodes.Reflects (members : Nodes) (asserted : List Assertion) : Prop where
  looks : ∀ place sight, place ≠ [] →
    (members.look place = some (.sight sight) ↔ Says asserted place sight)
  filled : ∀ place, members.look place ≠ some .empty
  named : ∀ assertion ∈ asserted, assertion.path ≠ []

namespace Nodes

theorem reflects_nil : Nodes.Reflects [] [] where
  looks := by
    intro place sight below
    rw [look_nil place below]
    constructor
    · intro shown
      cases shown
    · rintro ⟨⟨assertion, member, _⟩, _⟩
      cases member
  filled := by
    intro place
    cases place with
    | nil => intro shown; cases shown
    | cons name rest => intro shown; cases shown
  named := by intro assertion member; cases member

theorem says_append (asserted more : List Assertion) (place : List String)
    (sight : Sight) (hidden : ∀ assertion ∈ more, assertion.subject = .item →
      assertion.path <+: place → assertion.path = place ∧ sight = .tables)
    (stated : Says asserted place sight) : Says (asserted ++ more) place sight := by
  obtain ⟨⟨assertion, member, said⟩, shown⟩ := stated
  refine ⟨⟨assertion, List.mem_append_left _ member, said⟩, ?_⟩
  intro other known
  rcases List.mem_append.mp known with old | new
  · exact shown other old
  · exact hidden other new

section

variable {before after : Nodes} {asserted : List Assertion}
  {subject : Subject} {path : List String}
  (reflects : before.Reflects asserted)

include reflects

/-- Somewhere above every header that is shared there are tables that show. -/
theorem reflects_item (assertion : Assertion) (member : assertion ∈ asserted)
    (item : assertion.subject = .item) :
    ∃ place, place <+: assertion.path ∧
      before.look place = some (.sight .tables) := by
  induction length : assertion.path.length using Nat.strongRecOn
    generalizing assertion with
  | _ count ih =>
      by_cases outermost : ∀ other ∈ asserted, other.subject = .item →
          other.path <+: assertion.path → other.path = assertion.path
      · refine ⟨assertion.path, List.prefix_rfl, ?_⟩
        rw [reflects.looks _ _ (reflects.named assertion member)]
        refine ⟨⟨assertion, member, ?_⟩, fun other known kind above =>
          ⟨outermost other known kind above, rfl⟩⟩
        rw [Assertion.states, Subject.shows_self, item]
        rfl
      · simp only [Classical.not_forall] at outermost
        obtain ⟨other, known, kind, above, proper⟩ := outermost
        have shorter : other.path.length < count := by
          rw [← length]
          exact Nat.lt_of_le_of_ne above.length_le
            (fun same => proper (above.eq_of_length same))
        obtain ⟨place, higher, shown⟩ := ih _ shorter other known kind rfl
        exact ⟨place, higher.trans above, shown⟩

/-- Tables that show are those of a header that is shared. -/
theorem tables_item (place : List String)
    (shown : before.look place = some (.sight .tables)) :
    ∃ assertion ∈ asserted, assertion.subject = .item ∧
      assertion.path = place := by
  have below : place ≠ [] := by
    rintro rfl
    cases shown
  obtain ⟨⟨assertion, member, said⟩, _⟩ := (reflects.looks _ _ below).mp shown
  obtain ⟨item, same⟩ := assertion.subject.shows_tables _ _ said
  exact ⟨assertion, member, item, same⟩

/-- What is asserted below tables that share a header is not said. -/
theorem reflects_hidden (place : List String) (above : place <+: path)
    (proper : place ≠ path)
    (hides : before.look place = some (.sight .tables))
    (other : List String) (sight : Sight) :
    Says (asserted ++ [⟨path, subject⟩]) other sight ↔
      Says asserted other sight := by
  obtain ⟨header, member, item, rfl⟩ := tables_item reflects place hides
  constructor
  · rintro ⟨⟨assertion, known, said⟩, shown⟩
    refine ⟨?_, fun old kept => shown old (List.mem_append_left _ kept)⟩
    rcases List.mem_append.mp known with old | new
    · exact ⟨assertion, old, said⟩
    · rw [List.mem_singleton.mp new] at said
      have reaches : header.path <+: other ∨
          other <+: header.path ∧ other ≠ header.path := by
        by_cases below : header.path <+: other
        · exact Or.inl below
        · right
          have higher : other <+: header.path := by
            rcases subject.shows_comparable path other sight said with up | down
            · exact (List.prefix_or_prefix_of_prefix up above).resolve_right below
            · exact absurd (above.trans down) below
          exact ⟨higher, fun same => below (same ▸ List.prefix_rfl)⟩
      refine ⟨header, member, ?_⟩
      rcases reaches with below | ⟨higher, apart⟩
      · obtain ⟨same, tables⟩ :=
          shown header (List.mem_append_left _ member) item below
        rw [← same, tables, Assertion.states, Subject.shows_self, item]
        rfl
      · have onTheWay := subject.shows_way path other (higher.trans above)
          (fun same => proper (List.IsPrefix.eq_of_length above
            (Nat.le_antisymm above.length_le (same ▸ higher.length_le))))
        rw [Assertion.states] at said
        rw [onTheWay] at said
        rw [← said]
        exact header.subject.shows_way _ other higher apart
  · intro stated
    apply says_append asserted _ other sight _ stated
    intro assertion new _ below
    rw [List.mem_singleton.mp new] at below ⊢
    obtain ⟨same, _⟩ := stated.shown header member item (above.trans below)
    exact absurd (List.IsPrefix.eq_of_length above
      (Nat.le_antisymm above.length_le (same ▸ below.length_le))) proper

section

variable (looks : ∀ place,
    Shown (subject.shows path place) (before.look place) (after.look place))
  (place : List String) (sight : Sight)

include looks

/-- Where a draft shows something, it does not stand below tables that share a
header. -/
theorem shown_covered (shown : after.look place = some (.sight sight))
    (assertion : Assertion) (member : assertion ∈ asserted ++ [⟨path, subject⟩])
    (item : assertion.subject = .item) (above : assertion.path <+: place) :
    assertion.path = place ∧ sight = .tables := by
  rcases List.mem_append.mp member with old | new
  · obtain ⟨header, higher, tables⟩ := reflects_item reflects assertion old item
    obtain ⟨same, kind⟩ := after.look_tables header place sight
      (higher.trans above) ((looks header).stays _ tables) shown
    refine ⟨above.eq_of_length (Nat.le_antisymm above.length_le ?_), kind⟩
    rw [← same]
    exact higher.length_le
  · rw [List.mem_singleton.mp new] at item above ⊢
    have kind : subject = .item := item
    have asserts := looks path
    rw [subject.shows_self, kind] at asserts
    exact after.look_tables path place sight above asserts.asserts shown

/-- What an accepted statement asserts is what the draft shows from then on. -/
theorem reflects_shown (below : place ≠ []) :
    after.look place = some (.sight sight) ↔
      Says (asserted ++ [⟨path, subject⟩]) place sight := by
  constructor
  · intro shown
    refine ⟨?_, shown_covered reflects looks place sight shown⟩
    rcases looks place with ⟨_, same⟩ | ⟨now, said, later, _⟩
    · rw [same] at shown
      obtain ⟨⟨assertion, member, said⟩, _⟩ :=
        (reflects.looks place sight below).mp shown
      exact ⟨assertion, List.mem_append_left _ member, said⟩
    · rw [later] at shown
      cases shown
      exact ⟨_, List.mem_append_right _ List.mem_cons_self, said⟩
  · rintro ⟨⟨assertion, member, said⟩, shown⟩
    rcases List.mem_append.mp member with old | new
    · have past : Says asserted place sight :=
        ⟨⟨assertion, old, said⟩,
          fun other kept => shown other (List.mem_append_left _ kept)⟩
      exact (looks place).stays sight ((reflects.looks place sight below).mpr past)
    · rw [List.mem_singleton.mp new, Assertion.states] at said
      have asserts := looks place
      rw [said] at asserts
      exact asserts.asserts

end

theorem reflects_adds (named : path ≠ []) (adds : Adds subject path before after) :
    after.Reflects (asserted ++ [⟨path, subject⟩]) where
  looks := by
    intro place sight below
    cases adds with
    | hidden header above proper hides same =>
        rw [same, reflects.looks place sight below]
        exact (reflects_hidden reflects header above proper hides place sight).symm
    | shown looks => exact reflects_shown reflects looks place sight below
  filled := by
    intro place shown
    cases adds with
    | hidden header above proper hides same =>
        rw [same] at shown
        exact reflects.filled place shown
    | shown looks =>
        rcases looks place with ⟨_, same⟩ | ⟨now, _, later, _⟩
        · rw [same] at shown
          exact reflects.filled place shown
        · rw [later] at shown
          cases shown
  named := by
    intro assertion member
    rcases List.mem_append.mp member with old | new
    · exact reflects.named assertion old
    · rw [List.mem_singleton.mp new]
      exact named

end

end Nodes

theorem Statement.assertion_path (statement : Statement) (header : List String) :
    (statement.assertion header).path ≠ [] := by
  cases statement <;> simp [Statement.assertion]

namespace Draft

theorem apply_adds (draft next : Draft) (statement : Statement)
    (applied : draft.apply statement = some next) :
    Adds (statement.assertion draft.path).subject
      (statement.assertion draft.path).path draft.members next.members := by
  cases statement with
  | header path name =>
      obtain ⟨members, opened, same⟩ := Option.bind_eq_some_iff.mp applied
      cases same
      exact Nodes.changeAt_adds .table [name] (by simp) _
        (Nodes.openTable_adds name) path _ _ opened
  | item path name =>
      obtain ⟨members, opened, same⟩ := Option.bind_eq_some_iff.mp applied
      cases same
      exact Nodes.changeAt_adds .item [name] (by simp) _
        (Nodes.openItem_adds name) path _ _ opened
  | pair path name value =>
      obtain ⟨members, added, same⟩ := Option.bind_eq_some_iff.mp applied
      cases same
      simp only [Statement.assertion, List.append_assoc]
      exact Nodes.changeAt_adds (.value value) (path ++ [name]) (by simp) _
        (Nodes.addAt_adds true name value path) draft.path _ _ added

theorem apply_path (draft next : Draft) (statement : Statement)
    (applied : draft.apply statement = some next) :
    next.path = statement.nextHeader draft.path := by
  cases statement <;>
    (obtain ⟨members, _, same⟩ := Option.bind_eq_some_iff.mp applied
     cases same
     rfl)

theorem applyAll_reflects (statements : List Statement) (draft last : Draft)
    (asserted : List Assertion) (reflects : draft.members.Reflects asserted)
    (applied : draft.applyAll statements = some last) :
    last.members.Reflects (asserted ++ assertions draft.path statements) := by
  induction statements generalizing draft asserted with
  | nil =>
      cases applied
      simpa [assertions] using reflects
  | cons statement rest ih =>
      obtain ⟨next, first, others⟩ := Option.bind_eq_some_iff.mp applied
      have later := Nodes.reflects_adds reflects
        (statement.assertion_path draft.path)
        (draft.apply_adds next statement first)
      have more := ih next _ later others
      rw [draft.apply_path next statement first, List.append_assoc] at more
      exact more

end Draft

/-- The document that a text builds up shows what the text says. -/
theorem document_reflects (statements : List Statement) (document : Members)
    (built : document? statements = some document) :
    ∃ members : Nodes, document = Node.finishMembers members ∧
      members.Reflects (assertions [] statements) := by
  obtain ⟨draft, applied, rfl⟩ := Option.map_eq_some_iff.mp built
  have reflects := Draft.applyAll_reflects statements .empty draft []
    Nodes.reflects_nil applied
  exact ⟨draft.members, rfl, reflects⟩

end AlarmRelay.Toml
