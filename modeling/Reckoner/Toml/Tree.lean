import Reckoner.Plain
import Reckoner.Toml.Text

/-!
# Configuration trees: tables as they are defined, section by section

A document is a sequence of sections, each opened by a header, the first without one. A table is defined by a header or by
dotted keys of one section, and only once; until then it may stand as a mere part of a longer header. What a single value
defines, be it a list or an inline table, is complete and takes no additions. A list of tables grows by headers of its own
and is entered at its last table.
-/

namespace Reckoner.Toml

/-- A node of a tree. -/
inductive Node where
  /-- A complete value. -/
  | value (value : Plain)
  /-- A table, with the number of the section that defined it if one has. -/
  | table (definedIn : Option Nat) (fields : List (String × Node))
  /-- A list of tables: all but the last, and the last. -/
  | tables (earlier : List (List (String × Node))) (last : List (String × Node))

/-- The fields of a table, in the order of their first appearance. -/
abbrev Fields := List (String × Node)

namespace Fields

/-- The node of a field. -/
def get? (name : String) (fs : Fields) : Option Node := (fs.find? fun f => f.1 == name).map Prod.snd

/-- Sets the node of a field, in place if the field is there and else at the end. -/
def put (name : String) (node : Node) : Fields → Fields
  | [] => [(name, node)]
  | f :: fs => if f.1 == name then (name, node) :: fs else f :: put name node fs

/-- One part of a path into a tree: its name, and, where a dotted key goes through it, the section of that key. -/
abbrev Part := String × Option Nat

/-- Enters a node on a path: the fields there, and how the node is made again of changed fields. A header enters every table
and the last table of a list of tables. A dotted key enters only a table that it or its own section defines. -/
def enter (dottedIn : Option Nat) : Option Node → Except Fault (Fields × (Fields → Node))
  | none => .ok ([], .table dottedIn)
  | some (.table definedIn fields) =>
    match dottedIn with
    | none => .ok (fields, .table definedIn)
    | some sectionIndex =>
      if definedIn = none ∨ definedIn = some sectionIndex then .ok (fields, .table (some sectionIndex)) else .error .malformed
  | some (.tables earlier last) =>
    match dottedIn with
    | none => .ok (last, .tables earlier)
    | some _ => .error .malformed
  | some (.value _) => .error .malformed

/-- Changes the fields at the end of a path. -/
def alter (change : Fields → Except Fault Fields) : List Part → Fields → Except Fault Fields
  | [], fs => change fs
  | (name, dottedIn) :: path, fs => do
    let (inner, rebuild) ← enter dottedIn (fs.get? name)
    let inner ← alter change path inner
    return fs.put name (rebuild inner)

/-- Adds a field that is not yet there. -/
def add (name : String) (value : Plain) (fs : Fields) : Except Fault Fields :=
  match fs.get? name with
  | none => .ok (fs.put name (.value value))
  | some _ => .error .malformed

/-- Defines a table in a section. It may stand already, if nothing has defined it yet. -/
def define (sectionIndex : Nat) (name : String) (fs : Fields) : Except Fault Fields :=
  match fs.get? name with
  | none => .ok (fs.put name (.table (some sectionIndex) []))
  | some (.table none fields) => .ok (fs.put name (.table (some sectionIndex) fields))
  | some _ => .error .malformed

/-- Appends an empty table to a list of tables, which may be new. -/
def append (name : String) (fs : Fields) : Except Fault Fields :=
  match fs.get? name with
  | none => .ok (fs.put name (.tables [] []))
  | some (.tables earlier last) => .ok (fs.put name (.tables (earlier ++ [last]) []))
  | some _ => .error .malformed

/-- Adds the value of a key below a header, as a key of a section. -/
def assign (sectionIndex : Nat) (header : List String) (key : String × List String) (value : Plain) (fs : Fields) :
    Except Fault Fields :=
  let parts := key.1 :: key.2
  let path := header.map (·, none) ++ parts.dropLast.map (·, some sectionIndex)
  alter (add (parts.getLast (by simp [parts])) value) path fs

end Fields

mutual

/-- A node as a plain value. -/
def Node.toPlain : Node → Plain
  | .value v => v
  | .table _ fields => .record (Node.recordOf fields)
  | .tables earlier last => .list (Node.recordsOf earlier ++ [.record (Node.recordOf last)])

/-- The fields of a table as the fields of a record. -/
def Node.recordOf : List (String × Node) → List (String × Plain)
  | [] => []
  | (name, node) :: fields => (name, node.toPlain) :: Node.recordOf fields

/-- Tables as records. -/
def Node.recordsOf : List (List (String × Node)) → List Plain
  | [] => []
  | fields :: more => .record (Node.recordOf fields) :: Node.recordsOf more

end

end Reckoner.Toml
