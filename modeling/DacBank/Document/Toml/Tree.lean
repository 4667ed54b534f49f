import DacBank.Document.Value

namespace DacBank.Document.Toml

/-- The steps to an entry and its key in the last table. -/
structure Path where
  parents : List String
  key : String
  deriving DecidableEq

def Path.ofKeys (key : String) : List String → Path
  | [] => ⟨[], key⟩
  | next :: rest =>
    let p := ofKeys next rest
    ⟨key :: p.parents, p.key⟩

/-- How a table comes about: as a step on the path of a header, as a step on the path of a dotted
key, or under a header of its own. Which lines may add to it later depends on this. -/
inductive Origin where
  | passed
  | dotted
  | headed
  deriving DecidableEq

/-- An entry in the making. Of a list of tables only the last one can grow; lists and tables in
brackets are closed as soon as they are read. -/
inductive Node where
  | closed (v : Value)
  | table (origin : Origin) (entries : List (String × Node))
  | tables (earlier : List Value) (last : List (String × Node))

abbrev Body : Type :=
  List (String × Node)

mutual
def Node.value : Node → Value
  | .closed v => v
  | .table _ entries => .table (bodyEntries entries)
  | .tables earlier last => .list (earlier ++ [.table (bodyEntries last)])

def bodyEntries : List (String × Node) → List (String × Value)
  | [] => []
  | (key, n) :: rest => (key, n.value) :: bodyEntries rest
end

namespace Body

/-- Changes the node of a key, or makes one. -/
def update (key : String) (f : Option Node → Option Node) : Body → Option Body
  | [] => (f none).map fun n => [(key, n)]
  | (k, n) :: rest =>
    if k = key then (f (some n)).map fun n => (k, n) :: rest
    else (update key f rest).map fun rest => (k, n) :: rest

/-- Adds an entry whose key is new. -/
def add (key : String) (v : Value) (b : Body) : Option Body :=
  update key (fun
    | none => some (.closed v)
    | some _ => none) b

/-- Adds an entry below a dotted path. Tables that have a header are not entered, and the last table
has to be one of dotted keys. -/
def addDotted (key : String) (v : Value) : List String → Body → Option Body
  | [], b => b.add key v
  | step :: rest, b =>
    update step (fun
      | none => (addDotted key v rest []).map (.table .dotted)
      | some (.table origin inner) =>
        if origin = .dotted ∨ (origin = .passed ∧ rest ≠ []) then
          (addDotted key v rest inner).map (.table origin)
        else none
      | some (.tables earlier last) =>
        if rest = [] then none else (addDotted key v rest last).map (.tables earlier)
      | some (.closed _) => none) b

def addEntry (b : Body) (entry : Path × Value) : Option Body :=
  addDotted entry.1.key entry.2 entry.1.parents b

def addEntries (b : Body) : List (Path × Value) → Option Body
  | [] => some b
  | entry :: rest =>
    match b.addEntry entry with
    | none => none
    | some b => addEntries b rest

/-- Changes the node below the path of a header. -/
def updateBelow (key : String) (f : Option Node → Option Node) : List String → Body → Option Body
  | [], b => update key f b
  | step :: rest, b =>
    update step (fun
      | none => (updateBelow key f rest []).map (.table .passed)
      | some (.table origin inner) => (updateBelow key f rest inner).map (.table origin)
      | some (.tables earlier last) => (updateBelow key f rest last).map (.tables earlier)
      | some (.closed _) => none) b

end Body

/-- A header in one pair of brackets begins a table, in two it begins the next table of a list. -/
inductive HeaderKind where
  | table
  | tables
  deriving DecidableEq

/-- A header and the entries below it. -/
structure Section where
  kind : HeaderKind
  path : Path
  entries : List (Path × Value)

namespace Section

/-- What stands under the key of a header when the entries below it have been added. -/
def place (s : Section) (old : Option Node) : Option Node :=
  match s.kind, old with
  | .table, none => (Body.addEntries [] s.entries).map (.table .headed)
  | .table, some (.table .passed inner) => (Body.addEntries inner s.entries).map (.table .headed)
  | .tables, none => (Body.addEntries [] s.entries).map (.tables [])
  | .tables, some (.tables earlier last) =>
    (Body.addEntries [] s.entries).map (.tables (earlier ++ [.table (bodyEntries last)]))
  | _, some _ => none

def addTo (s : Section) (root : Body) : Option Body :=
  root.updateBelow s.path.key s.place s.path.parents

end Section

/-- Adds the sections in their order. -/
def addSections (root : Body) : List Section → Option Body
  | [] => some root
  | s :: rest =>
    match s.addTo root with
    | none => none
    | some root => addSections root rest

end DacBank.Document.Toml
