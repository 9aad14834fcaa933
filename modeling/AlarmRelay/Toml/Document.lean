import AlarmRelay.Toml.Statement

/-!
# Documents

The statements of a text build up one table.  Each header moves to the table in
which the following keys belong; a statement that would define something twice
makes the whole text invalid.
-/

set_option autoImplicit false

namespace AlarmRelay.Toml

/-- A document under construction: its members and the path of the last header. -/
structure Draft where
  members : Nodes
  path : List String

namespace Draft

/-- Nothing is defined yet and no header has been met. -/
def empty : Draft := ⟨[], []⟩

def apply (draft : Draft) : Statement → Option Draft
  | .header path name => do
      let members ← Nodes.changeAt (Nodes.openTable name) path draft.members
      return ⟨members, path ++ [name]⟩
  | .item path name => do
      let members ← Nodes.changeAt (Nodes.openItem name) path draft.members
      return ⟨members, path ++ [name]⟩
  | .pair path name value => do
      let members ←
        Nodes.changeAt (Nodes.addAt true name value path) draft.path draft.members
      return { draft with members := members }

def applyAll (draft : Draft) (statements : List Statement) : Option Draft :=
  statements.foldlM apply draft

end Draft

/-- The members of the document that statements build up. -/
def document? (statements : List Statement) : Option Members :=
  (Draft.empty.applyAll statements).map (fun draft =>
    Node.finishMembers draft.members)

def parse? (text : String) : Option Members := do
  let statements ← statements? text
  document? statements

end AlarmRelay.Toml
