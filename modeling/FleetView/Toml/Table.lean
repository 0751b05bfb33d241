/-
What the lines of a configuration document build up. A document is a table of
tables; a line puts a value into a table or opens a table, by a path of names.
Nothing may be said twice, so every table remembers what brought it about: a
header of its own, the header of something inside it, or a name with dots.
Headers may complete a table of the second kind only, and names with dots may
add to a table of the third kind only.
-/

import FleetView.Json.Basic

namespace FleetView.Toml

/-- What brought a table about. -/
inductive Origin where
  /-- A header of its own, or the document itself. -/
  | header
  /-- The header of a table inside it. -/
  | implied
  /-- A name with dots. -/
  | dotted
  deriving DecidableEq, Repr

/-- What stands under a name. -/
inductive Node where
  /-- A value, which is complete. -/
  | value (content : Json)
  | table (origin : Origin) (entries : List (String × Node))
  /-- A list of tables, the last of which is open. -/
  | tables (earlier : List Json) (last : List (String × Node))

/-- A name that may have dots: the names before the last one and the last one. -/
structure Key where
  path : List String
  name : String
  deriving DecidableEq, Repr

/-! ### The value of a table -/

mutual

/-- The value that a node stands for. -/
def Node.toJson : Node → Json
  | .value content => content
  | .table _ entries => .object (Bag.ofMembers (Node.membersOf entries))
  | .tables earlier last => .array (earlier ++ [.object (Bag.ofMembers (Node.membersOf last))])

/-- The members that the entries of a table stand for. -/
def Node.membersOf : List (String × Node) → List (String × Json)
  | [] => []
  | (name, node) :: rest => (name, node.toJson) :: Node.membersOf rest

end

/-! ### Entries -/

/-- The entries of a table and what brought it about. -/
structure Table where
  origin : Origin
  entries : List (String × Node)

namespace Table

/-- A table without entries. -/
def empty (origin : Origin) : Table := ⟨origin, []⟩

/-- What stands under a name. -/
def get? (table : Table) (name : String) : Option Node :=
  (table.entries.find? (·.1 = name)).map (·.2)

/-- Puts a node under a name in place of what stood there. -/
def put (table : Table) (name : String) (node : Node) : Table :=
  { table with entries := table.entries.filter (·.1 ≠ name) ++ [(name, node)] }

/-- The value of a table. -/
def toJson (table : Table) : Json := (Node.table table.origin table.entries).toJson

/-- Changes the table at the end of a path; tables that are missing on the way
come about as `missing` says. In a list of tables the last one is meant. Names
with dots stay out of tables that have a header. -/
def within (missing : Origin) (change : Table → Option Table) : List String → Table → Option Table
  | [], table => change table
  | name :: path, table =>
    match table.get? name with
    | none => do
      let inner ← within missing change path (empty missing)
      some (table.put name (.table inner.origin inner.entries))
    | some (.value _) => none
    | some (.table origin entries) =>
      if missing = .dotted ∧ origin = .header then none
      else do
        let inner ← within missing change path ⟨origin, entries⟩
        some (table.put name (.table inner.origin inner.entries))
    | some (.tables earlier last) => do
      let inner ← within missing change path ⟨.header, last⟩
      some (table.put name (.tables earlier inner.entries))

/-- Adds a value under a new name. Behind a path of dots the table must have come
about by dots, too. -/
def add (key : Key) (content : Json) (table : Table) : Option Table :=
  if table.origin = .dotted ↔ key.path = [] then none
  else if (table.get? key.name).isSome then none
  else some (table.put key.name (.value content))

/-- Gives a value to a name. -/
def assign (key : Key) (content : Json) (table : Table) : Option Table :=
  table.within .dotted (add key content) key.path

/-- Opens a table that has no header yet. -/
def openTable (key : Key) (table : Table) : Option Table :=
  table.within .implied (fun inner =>
    match inner.get? key.name with
    | none => some (inner.put key.name (.table .header []))
    | some (.table .implied entries) => some (inner.put key.name (.table .header entries))
    | some _ => none) key.path

/-- Opens one more table of a list of tables. -/
def openItem (key : Key) (table : Table) : Option Table :=
  table.within .implied (fun inner =>
    match inner.get? key.name with
    | none => some (inner.put key.name (.tables [] []))
    | some (.tables earlier last) =>
      some (inner.put key.name
        (.tables (earlier ++ [(Node.table .header last).toJson]) []))
    | some _ => none) key.path

end Table

/-- The value of a table that is written out on one line. -/
def ofPairs (pairs : List (Key × Json)) : Option Json :=
  (pairs.foldlM (fun table pair => Table.assign pair.1 pair.2 table)
    (Table.empty .header)).map Table.toJson

/-! ### Lines -/

/-- A line of a document that says something. -/
inductive Line where
  | entry (key : Key) (content : Json)
  | table (key : Key)
  | item (key : Key)

/-- A document as far as it has been read. -/
structure Draft where
  root : Table
  /-- The path to the table that is open. -/
  current : List String

namespace Draft

/-- A document before its first line. -/
def start : Draft := ⟨Table.empty .header, []⟩

/-- Takes one more line. -/
def take (draft : Draft) : Line → Option Draft
  | .entry key content => do
    let root ← draft.root.within .implied (Table.assign key content) draft.current
    some { draft with root }
  | .table key => do
    let root ← draft.root.openTable key
    some ⟨root, key.path ++ [key.name]⟩
  | .item key => do
    let root ← draft.root.openItem key
    some ⟨root, key.path ++ [key.name]⟩

end Draft

/-- The value of a document, if its lines agree with each other. -/
def ofLines (lines : List Line) : Option Json :=
  (lines.foldlM Draft.take Draft.start).map fun draft => draft.root.toJson

end FleetView.Toml
