import AlarmRelay.Toml.Value

/-!
# Tables under construction

A text mentions a table in several places: below its own header, on the way to
another header, and behind dotted keys.  While a text is read, each table
remembers how it came to be, because that decides what may still be added: a
header may complete a table that only other headers implied, and dotted keys may
only complete tables that dotted keys made.
-/

set_option autoImplicit false

namespace AlarmRelay.Toml

/-- How a table came to be. -/
inductive Origin where
  | header
  /-- It lies on the way to a header. -/
  | implied
  /-- It lies on the way of a dotted key. -/
  | dotted
  deriving DecidableEq, Repr

/-- A value under construction. -/
inductive Node where
  /-- A value to which nothing can be added. -/
  | closed (value : Value)
  | table (origin : Origin) (members : List (String × Node))
  /-- Tables with one header each, in order. -/
  | tables (items : List (List (String × Node)))

abbrev Nodes := List (String × Node)

namespace Node

mutual

def finish : Node → Value
  | .closed value => value
  | .table _ members => .table (finishMembers members)
  | .tables items => .array (finishItems items)

def finishMembers : Nodes → Members
  | [] => []
  | (name, node) :: rest => (name, node.finish) :: finishMembers rest

def finishItems : List Nodes → List Value
  | [] => []
  | members :: rest => .table (finishMembers members) :: finishItems rest

end

end Node

namespace Nodes

/-- Replace the member of a name, or add it behind the others. -/
def set (name : String) (node : Node) : Nodes → Nodes
  | [] => [(name, node)]
  | (other, old) :: rest =>
      if other == name then (name, node) :: rest
      else (other, old) :: set name node rest

/-- Apply a change to the last item of a list. -/
def changeLast {α : Type} (change : α → Option α) : List α → Option (List α)
  | [] => none
  | [last] => (change last).map ([·])
  | item :: rest => (changeLast change rest).map (item :: ·)

/-- Change the members of the table that the headers of `path` lead to; tables on
the way that are missing come to be. -/
def changeAt (change : Nodes → Option Nodes) : List String → Nodes → Option Nodes
  | [], members => change members
  | name :: path, members =>
      match members.lookup name with
      | none => do
          let inner ← changeAt change path []
          return members.set name (.table .implied inner)
      | some (.table origin inner) => do
          let inner ← changeAt change path inner
          return members.set name (.table origin inner)
      | some (.tables items) => do
          let items ← changeLast (changeAt change path) items
          return members.set name (.tables items)
      | some (.closed _) => none

def add (name : String) (value : Value) (members : Nodes) : Option Nodes :=
  if (members.lookup name).isSome then none
  else some (members ++ [(name, .closed value)])

/-- Add a member behind dotted keys.  The table that receives the member has to
be the one that the text is in, or one that dotted keys made. -/
def addAt (receives : Bool) (name : String) (value : Value) :
    List String → Nodes → Option Nodes
  | [], members => if receives then members.add name value else none
  | key :: path, members =>
      match members.lookup key with
      | none => do
          let inner ← addAt true name value path []
          return members.set key (.table .dotted inner)
      | some (.table .header _) => none
      | some (.table origin inner) => do
          let inner ← addAt (origin == .dotted) name value path inner
          return members.set key (.table origin inner)
      | some (.tables items) => do
          let items ← changeLast (addAt false name value path) items
          return members.set key (.tables items)
      | some (.closed _) => none

def openTable (name : String) (members : Nodes) : Option Nodes :=
  match members.lookup name with
  | none => some (members.set name (.table .header []))
  | some (.table .implied inner) => some (members.set name (.table .header inner))
  | some _ => none

/-- Open one more of the tables that share a header. -/
def openItem (name : String) (members : Nodes) : Option Nodes :=
  match members.lookup name with
  | none => some (members.set name (.tables [[]]))
  | some (.tables items) => some (members.set name (.tables (items ++ [[]])))
  | some _ => none

end Nodes
end AlarmRelay.Toml
