import TunnelKeeper.Toml.Value

/-!
How the statements of a TOML text make up one table. A member is set once. A header opens a table
that no header has opened before, or appends one to a list of tables; the tables on the way to it
come into being with it. A dotted name makes the tables on its way, and may go on with a table that
another name or the way to a header has made, but not with one that a header has opened.
-/

namespace TunnelKeeper.Toml

/-- How a table came into being. -/
inductive Origin
  /-- On the way to a header. -/
  | implied
  /-- On the way of a dotted name. -/
  | dotted
  /-- By a header of its own. -/
  | header
  deriving DecidableEq, Repr

/-- A member of a table that is being made. -/
inductive Node
  /-- A value as it was written, which nothing is added to. -/
  | value (value : Toml)
  | table (origin : Origin) (members : List (String × Node))
  /-- A list of tables, of which only the last is added to. -/
  | tables (items : List (List (String × Node)))

/-- The members of a table that is being made. -/
abbrev Nodes := List (String × Node)

namespace Node

mutual

def toToml : Node → Toml
  | .value v => v
  | .table _ members => .table (membersToToml members)
  | .tables items => .array (tablesToToml items)

def membersToToml : List (String × Node) → List (String × Toml)
  | [] => []
  | (name, n) :: rest => (name, n.toToml) :: membersToToml rest

/-- The values that a list of tables has become. -/
def tablesToToml : List (List (String × Node)) → List Toml
  | [] => []
  | members :: rest => .table (membersToToml members) :: tablesToToml rest

end

end Node

namespace Nodes

/-- Changes a member, which may not be there yet. -/
def change? (name : String) (f : Option Node → Option Node) : Nodes → Option Nodes
  | [] => (f none).map fun n => [(name, n)]
  | (other, n) :: rest =>
    if other = name then (f (some n)).map fun n => (name, n) :: rest
    else (change? name f rest).map fun rest => (other, n) :: rest

/-- Changes the last of some tables. -/
def changeLast? (f : Nodes → Option Nodes) : List Nodes → Option (List Nodes)
  | [] => none
  | [last] => (f last).map fun last => [last]
  | t :: rest => (changeLast? f rest).map fun rest => t :: rest

/-- Changes the table that a path leads to. `dotted` tells whether the path is a dotted name. -/
def within? (dotted : Bool) : (path : List String) → (Nodes → Option Nodes) → Nodes → Option Nodes
  | [], f, members => f members
  | name :: path, f, members =>
    members.change? name fun
      | none => (within? dotted path f []).map (.table (if dotted then .dotted else .implied))
      | some (.table origin inner) =>
        if dotted && origin = .header then none else (within? dotted path f inner).map (.table origin)
      | some (.tables items) =>
        if dotted then none else (changeLast? (within? dotted path f) items).map .tables
      | some (.value _) => none

/-- Splits a path before its last name. -/
def splitPath? : List String → Option (List String × String)
  | [] => none
  | [name] => some ([], name)
  | name :: path => (splitPath? path).map fun (way, last) => (name :: way, last)

/-- Sets the member that a dotted name leads to. -/
def set? (path : List String) (value : Toml) (members : Nodes) : Option Nodes :=
  (splitPath? path).bind fun (way, name) =>
    within? true way (change? name fun
      | none => some (.value value)
      | some _ => none) members

def openTable? (path : List String) (members : Nodes) : Option Nodes :=
  (splitPath? path).bind fun (way, name) =>
    within? false way (change? name fun
      | none => some (.table .header [])
      | some (.table .implied inner) => some (.table .header inner)
      | some _ => none) members

/-- Appends a table to the list of a header. -/
def appendTable? (path : List String) (members : Nodes) : Option Nodes :=
  (splitPath? path).bind fun (way, name) =>
    within? false way (change? name fun
      | none => some (.tables [[]])
      | some (.tables items) => some (.tables (items ++ [[]]))
      | some _ => none) members

/-- The table of members that are set one after another. -/
def ofEntries? (entries : List (List String × Toml)) : Option Nodes :=
  entries.foldlM (fun members (path, value) => members.set? path value) []

end Nodes

/-- A statement of a text. -/
inductive Statement
  /-- The header of a table. -/
  | table (path : List String)
  /-- The header of a further table of a list. -/
  | element (path : List String)
  /-- A member of the table of the last header. -/
  | entry (path : List String) (value : Toml)

/-- A table that is being made, and the path of the last header. -/
structure Draft where
  current : List String
  members : Nodes

namespace Draft

def empty : Draft := ⟨[], []⟩

def add? (d : Draft) : Statement → Option Draft
  | .table path => (d.members.openTable? path).map fun members => ⟨path, members⟩
  | .element path => (d.members.appendTable? path).map fun members => ⟨path, members⟩
  | .entry path value =>
    (d.members.within? false d.current (Nodes.set? path value)).map fun members =>
      { d with members }

end Draft

def ofStatements? (statements : List Statement) : Option Toml :=
  (statements.foldlM Draft.add? Draft.empty).map fun d => .table (Node.membersToToml d.members)

end TunnelKeeper.Toml
