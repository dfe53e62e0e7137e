import OneTable.Toml.Basic

/-!
# Building the tables of a TOML document

A key is defined once. A header may fill a table that exists only because longer headers led through
it, and no other. A dotted key leads through tables without a header of their own and through the
last table of an array, but adds only to a table that a dotted key made. What is inside brackets and
braces is complete and takes nothing more.
-/

namespace OneTable.Toml

/-- How a table came about. -/
inductive Origin
  /-- It has a header of its own. -/
  | header
  /-- A header led through it. -/
  | implied
  /-- A dotted key led through it. -/
  | dotted
deriving DecidableEq, Repr

/-- A dotted key that goes on with `path` may lead through a table of this origin. -/
def Origin.leadsOn (path : List String) : Origin → Bool
  | .header => false
  | .implied => 1 < path.length
  | .dotted => true

inductive Node
  | value (v : Toml)
  | table (origin : Origin) (entries : List (String × Node))
  /-- The tables of one array, the last first. -/
  | tables (items : List (List (String × Node)))

namespace Node

instance : Inhabited Node := ⟨.value default⟩

abbrev Entries := List (String × Node)

/-- Changes what stands under a key, or adds it at the end. -/
def alter? (key : String) (f : Option Node → Option Node) : Entries → Option Entries
  | [] => (f none).map fun n => [(key, n)]
  | e :: es =>
    if e.1 == key then (f (some e.2)).map fun n => (key, n) :: es
    else (alter? key f es).map (e :: ·)

def fresh? (v : Toml) : Option Node → Option Node
  | none => some (.value v)
  | some _ => none

/-- Assigns a value to a dotted key. -/
def put? (v : Toml) : List String → Entries → Option Entries
  | [], _ => none
  | [key], es => alter? key (fresh? v) es
  | key :: path, es =>
    alter? key (fun
      | none => (put? v path []).map (.table .dotted)
      | some (.table origin es) =>
        if origin.leadsOn path then (put? v path es).map (.table origin) else none
      | some (.tables (es :: earlier)) =>
        if 1 < path.length then (put? v path es).map fun es => .tables (es :: earlier) else none
      | some _ => none) es

/-- Follows a header up to its last key and does `last` there. -/
def along? (last : Option Node → Option Node) : List String → Entries → Option Entries
  | [], _ => none
  | [key], es => alter? key last es
  | key :: path, es =>
    alter? key (fun
      | none => (along? last path []).map (.table .implied)
      | some (.table origin es) => (along? last path es).map (.table origin)
      | some (.tables (es :: earlier)) =>
        (along? last path es).map fun es => .tables (es :: earlier)
      | some _ => none) es

/-- Opens the table of a header. -/
def opened? : Option Node → Option Node
  | none => some (.table .header [])
  | some (.table .implied es) => some (.table .header es)
  | some _ => none

/-- Adds a table to an array of them. -/
def extended? : Option Node → Option Node
  | none => some (.tables [[]])
  | some (.tables items) => some (.tables ([] :: items))
  | some _ => none

/-- Changes the entries of an open table. -/
def within? (f : Entries → Option Entries) : Option Node → Option Node
  | some (.table origin es) => (f es).map (.table origin)
  | some (.tables (es :: earlier)) => (f es).map fun es => .tables (es :: earlier)
  | _ => none

mutual

def toToml : Node → Toml
  | .value v => v
  | .table _ entries => .table (entriesToToml entries)
  | .tables items => .array (itemsToToml items).reverse

def entriesToToml : List (String × Node) → List (String × Toml)
  | [] => []
  | (key, n) :: es => (key, n.toToml) :: entriesToToml es

def itemsToToml : List (List (String × Node)) → List Toml
  | [] => []
  | es :: items => .table (entriesToToml es) :: itemsToToml items

end

end Node

/-- The table of assignments that stand between one pair of braces. -/
def ofAssignments? (assignments : List (List String × Toml)) : Option Toml := do
  let es ← assignments.foldlM (fun es (path, v) => Node.put? v path es) ([] : Node.Entries)
  some (.table (Node.entriesToToml es))

/-- What a document says line by line. -/
inductive Line
  | header (path : List String)
  /-- The header of one table of an array. -/
  | item (path : List String)
  | assignment (path : List String) (v : Toml)

/-- The tables so far, and the path of the open one. -/
structure Outline where
  root : Node.Entries := []
  here : List String := []

def Outline.add? (o : Outline) : Line → Option Outline
  | .header path => (Node.along? Node.opened? path o.root).map fun root => ⟨root, path⟩
  | .item path => (Node.along? Node.extended? path o.root).map fun root => ⟨root, path⟩
  | .assignment path v =>
    let root? := match o.here with
      | [] => Node.put? v path o.root
      | here => Node.along? (Node.within? (Node.put? v path)) here o.root
    root?.map fun root => { o with root }

/-- The entries of the document that has these lines. -/
def ofLines? (lines : List Line) : Option (List (String × Toml)) :=
  (lines.foldlM Outline.add? {}).map fun o => Node.entriesToToml o.root

end OneTable.Toml
