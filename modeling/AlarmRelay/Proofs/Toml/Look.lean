import AlarmRelay.Toml.Sight

/-!
# What a draft shows

`Nodes.look` is what stands at the places of a document under construction.  A
statement that is accepted makes a place show what it asserts of it, where nothing
stood or the same, and leaves every other place as it is; below tables that share a
header nothing shows.
-/

set_option autoImplicit false

namespace AlarmRelay.Toml

/-- What stands at a place of a draft. -/
inductive Look where
  /-- A list of tables without any; no statement leaves one behind. -/
  | empty
  | sight (sight : Sight)

namespace Nodes

def look : List String → Nodes → Option Look
  | [], _ => some (.sight .table)
  | name :: place, members =>
      (members.lookup name).bind fun
        | .closed value => (value.sight place).map Look.sight
        | .table _ inner => look place inner
        | .tables items =>
            if place = [] then
              some (if items.isEmpty then .empty else .sight .tables)
            else none

end Nodes

def Node.look (place : List String) : Node → Option Look
  | .closed value => (value.sight place).map Look.sight
  | .table _ inner => Nodes.look place inner
  | .tables items =>
      if place = [] then
        some (if items.isEmpty then .empty else .sight .tables)
      else none

/-- A place shows what is asserted of it, and otherwise what it showed before. -/
def Shown (asserted : Option Sight) (before after : Option Look) : Prop :=
  (asserted = none ∧ after = before) ∨
    ∃ sight, asserted = some sight ∧ after = some (.sight sight) ∧
      (before = none ∨ before = some .empty ∨ before = some (.sight sight))

/-- What it does to the members of a draft to put a subject at a place. -/
inductive Adds (subject : Subject) (path : List String) (before after : Nodes) :
    Prop where
  /-- Some tables that share a header hide the place. -/
  | hidden (place : List String) (above : place <+: path) (proper : place ≠ path)
      (hides : before.look place = some (.sight .tables))
      (same : ∀ other, after.look other = before.look other) :
      Adds subject path before after
  | shown (looks : ∀ place,
      Shown (subject.shows path place) (before.look place) (after.look place)) :
      Adds subject path before after

/-! ## Members by name -/

namespace Nodes

theorem lookup_set (members : Nodes) (name other : String) (node : Node) :
    (members.set name node).lookup other =
      if other = name then some node else members.lookup other := by
  induction members with
  | nil =>
      by_cases same : other = name
      · simp [set, same]
      · have apart : (other == name) = false := by simpa using same
        simp [set, List.lookup_cons, same, apart]
  | cons head rest ih =>
      obtain ⟨key, old⟩ := head
      by_cases here : key = name
      · subst here
        by_cases same : other = key
        · simp [set, same]
        · have apart : (other == key) = false := by simpa using same
          simp [set, List.lookup_cons, same, apart]
      · by_cases same : other = key
        · subst same
          simp [set, here]
        · have apart : (other == key) = false := by simpa using same
          simp [set, here, List.lookup_cons, apart, ih]

theorem set_absent (members : Nodes) (name : String) (node : Node)
    (absent : members.lookup name = none) :
    members.set name node = members ++ [(name, node)] := by
  induction members with
  | nil => rfl
  | cons head rest ih =>
      obtain ⟨key, old⟩ := head
      by_cases here : name = key
      · simp [here] at absent
      · have apart : (name == key) = false := by simpa using here
        have later : List.lookup name rest = none := by
          simpa [List.lookup_cons, apart] using absent
        simp [set, Ne.symm here, ih later]

theorem look_cons (members : Nodes) (name : String) (place : List String) :
    members.look (name :: place) =
      (members.lookup name).bind (Node.look place) := by
  simp only [look]
  congr 1

/-! ## Changes -/

section

variable {subject : Subject} {path : List String} {members : Nodes}
  {name : String}

/-- A member that shows the right things below it does so in its table. -/
theorem adds_set (node : Node)
    (looks : ∀ place, Shown (subject.shows path place)
      ((members.lookup name).bind (Node.look place)) (node.look place)) :
    Adds subject (name :: path) members (members.set name node) := by
  refine .shown fun place => ?_
  cases place with
  | nil => exact Or.inr ⟨.table, rfl, rfl, Or.inr (Or.inr rfl)⟩
  | cons other rest =>
      rw [look_cons, look_cons, lookup_set, Subject.shows]
      by_cases same : other = name
      · subst same
        simpa using looks rest
      · rw [if_neg same, if_neg (Ne.symm same)]
        exact Or.inl ⟨rfl, rfl⟩

theorem look_nil (place : List String) (below : place ≠ []) :
    look place [] = none := by
  cases place with
  | nil => exact absurd rfl below
  | cons name rest => rfl

/-- A change below a table is one in the members around it. -/
theorem adds_table (origin later : Origin) (inner after : Nodes)
    (found : members.lookup name = some (.table origin inner))
    (adds : Adds subject path inner after) :
    Adds subject (name :: path) members (members.set name (.table later after)) := by
  cases adds with
  | hidden place above proper hides same =>
      refine .hidden (name :: place) (List.cons_prefix_cons.mpr ⟨rfl, above⟩)
        (fun equal => proper (List.cons.inj equal).2) ?_ ?_
      · rw [look_cons, found]
        exact hides
      · intro other
        cases other with
        | nil => rfl
        | cons key rest =>
            rw [look_cons, look_cons, lookup_set]
            by_cases here : key = name
            · subst here
              rw [if_pos rfl, found]
              exact same rest
            · rw [if_neg here]
  | shown looks =>
      apply adds_set
      intro place
      rw [found]
      exact looks place

/-- A change below a table that comes to be is one in the members around it. -/
theorem adds_new (origin : Origin) (after : Nodes) (below : path ≠ [])
    (absent : members.lookup name = none)
    (adds : Adds subject path [] after) :
    Adds subject (name :: path) members
      (members.set name (.table origin after)) := by
  cases adds with
  | hidden place above proper hides same =>
      cases place with
      | nil => cases hides
      | cons key rest => cases hides
  | shown looks =>
      apply adds_set
      intro place
      rw [absent]
      cases place with
      | nil =>
          cases path with
          | nil => exact absurd rfl below
          | cons key rest => exact Or.inr ⟨.table, rfl, rfl, Or.inl rfl⟩
      | cons key rest => exact looks (key :: rest)

theorem changeLast_isEmpty {α : Type} (change : α → Option α)
    (items later : List α) (changed : changeLast change items = some later) :
    items.isEmpty = false ∧ later.isEmpty = false := by
  cases items with
  | nil => cases changed
  | cons item rest =>
      cases rest with
      | nil =>
          obtain ⟨_, _, rfl⟩ := Option.map_eq_some_iff.mp changed
          exact ⟨rfl, rfl⟩
      | cons next others =>
          obtain ⟨_, _, rfl⟩ := Option.map_eq_some_iff.mp changed
          exact ⟨rfl, rfl⟩

/-- Nothing that happens below tables that share a header shows. -/
theorem adds_hidden (items later : List Nodes) (below : path ≠ [])
    (change : Nodes → Option Nodes)
    (found : members.lookup name = some (.tables items))
    (changed : changeLast change items = some later) :
    Adds subject (name :: path) members (members.set name (.tables later)) := by
  obtain ⟨filled, still⟩ := changeLast_isEmpty change items later changed
  refine .hidden [name] ⟨path, rfl⟩ ?_ ?_ ?_
  · intro same
    exact below (List.cons.inj same).2.symm
  · rw [look_cons, found]
    simp [Node.look, filled]
  · intro other
    cases other with
    | nil => rfl
    | cons key rest =>
        rw [look_cons, look_cons, lookup_set]
        by_cases here : key = name
        · subst here
          rw [if_pos rfl, found]
          simp [Node.look, filled, still]
        · rw [if_neg here]

end

/-- What a change adds below its table it adds below the way to it. -/
theorem changeAt_adds (subject : Subject) (place : List String)
    (below : place ≠ []) (change : Nodes → Option Nodes)
    (adds : ∀ before after, change before = some after →
      Adds subject place before after)
    (path : List String) (before after : Nodes)
    (changed : changeAt change path before = some after) :
    Adds subject (path ++ place) before after := by
  induction path generalizing before after with
  | nil => exact adds before after changed
  | cons name path ih =>
      have deeper : path ++ place ≠ [] := by simp [below]
      rw [changeAt] at changed
      split at changed
      · rename_i absent
        obtain ⟨inner, made, same⟩ := Option.bind_eq_some_iff.mp changed
        cases same
        exact adds_new _ inner deeper absent (ih [] inner made)
      · rename_i origin inner found
        obtain ⟨later, made, same⟩ := Option.bind_eq_some_iff.mp changed
        cases same
        exact adds_table origin _ inner later found (ih inner later made)
      · rename_i items found
        obtain ⟨later, made, same⟩ := Option.bind_eq_some_iff.mp changed
        cases same
        exact adds_hidden items later deeper _ found made
      · cases changed

theorem add_adds (name : String) (value : Value) (before after : Nodes)
    (added : before.add name value = some after) :
    Adds (.value value) [name] before after := by
  rw [add] at added
  split at added
  · cases added
  · rename_i unknown
    cases added
    have absent : before.lookup name = none :=
      Option.not_isSome_iff_eq_none.mp unknown
    rw [← set_absent before name (.closed value) absent]
    apply adds_set
    intro place
    rw [absent]
    simp only [Subject.shows, Subject.sight, Node.look]
    cases shown : value.sight place with
    | none => exact Or.inl ⟨rfl, rfl⟩
    | some sight => exact Or.inr ⟨sight, rfl, rfl, Or.inl rfl⟩

theorem addAt_adds (receives : Bool) (name : String) (value : Value)
    (path : List String) (before after : Nodes)
    (added : addAt receives name value path before = some after) :
    Adds (.value value) (path ++ [name]) before after := by
  induction path generalizing receives before after with
  | nil =>
      rw [addAt] at added
      split at added
      · exact add_adds name value before after added
      · cases added
  | cons key path ih =>
      have deeper : path ++ [name] ≠ [] := by simp
      rw [addAt] at added
      split at added
      · rename_i absent
        obtain ⟨inner, made, same⟩ := Option.bind_eq_some_iff.mp added
        cases same
        exact adds_new _ inner deeper absent (ih _ [] inner made)
      · cases added
      · rename_i origin inner other found
        obtain ⟨later, made, same⟩ := Option.bind_eq_some_iff.mp added
        cases same
        exact adds_table origin _ inner later found (ih _ inner later made)
      · rename_i items found
        obtain ⟨later, made, same⟩ := Option.bind_eq_some_iff.mp added
        cases same
        exact adds_hidden items later deeper _ found made
      · cases added

theorem openTable_adds (name : String) (before after : Nodes)
    (opened : before.openTable name = some after) :
    Adds .table [name] before after := by
  have table : ∀ (inner : Nodes) (place : List String),
      Shown (Subject.table.sight place) none ((Node.table .header []).look place) ∧
        Shown (Subject.table.sight place) (inner.look place)
          ((Node.table .header inner).look place) := by
    intro inner place
    cases place with
    | nil =>
        exact ⟨Or.inr ⟨.table, rfl, rfl, Or.inl rfl⟩,
          Or.inr ⟨.table, rfl, rfl, Or.inr (Or.inr rfl)⟩⟩
    | cons key rest => exact ⟨Or.inl ⟨rfl, rfl⟩, Or.inl ⟨rfl, rfl⟩⟩
  rw [openTable] at opened
  split at opened
  · rename_i absent
    cases opened
    apply adds_set
    intro place
    rw [absent]
    exact (table [] place).1
  · rename_i inner found
    cases opened
    apply adds_set
    intro place
    rw [found]
    exact (table inner place).2
  · cases opened

theorem openItem_adds (name : String) (before after : Nodes)
    (opened : before.openItem name = some after) :
    Adds .item [name] before after := by
  rw [openItem] at opened
  split at opened
  · rename_i absent
    cases opened
    apply adds_set
    intro place
    rw [absent]
    cases place with
    | nil => exact Or.inr ⟨.tables, rfl, rfl, Or.inl rfl⟩
    | cons key rest => exact Or.inl ⟨rfl, rfl⟩
  · rename_i items found
    cases opened
    apply adds_set
    intro place
    rw [found]
    cases place with
    | nil =>
        refine Or.inr ⟨.tables, rfl, by simp [Node.look], Or.inr ?_⟩
        cases items with
        | nil => exact Or.inl rfl
        | cons item rest => exact Or.inr rfl
    | cons key rest => exact Or.inl ⟨rfl, rfl⟩
  · cases opened

end Nodes
end AlarmRelay.Toml
