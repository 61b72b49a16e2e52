import Reckoner.Toml.Scalar
import Reckoner.Toml.Tree

/-!
# Configuration documents: values, statements and the whole text

A document is a text in UTF-8 whose statements are keys with values and headers of sections, one a line. Values may nest:
lists and inline tables hold values. They may do so to any depth, which is an idealisation: the program runs out of stack at some
depth. `Document.ofText` gives the record that a text denotes.
-/

namespace Reckoner.Toml

mutual

/-- A value. Every nested reading takes at least one character, so `fuel` is never used up where it is greater than the length
of the text. -/
def value : Nat → Piece Plain
  | 0, _ => .error .malformed
  | fuel + 1, s =>
    match string? s with
    | some r => r.map fun (text, rest) => (.text (String.ofList text), rest)
    | none =>
      match s with
      | '[' :: cs => do
        let (items, rest) ← items fuel cs
        return (.list items, rest)
      | '\x7b' :: cs => do
        let cs := skipSpace cs
        let (fields, rest) ← if cs.head? = some '\x7d' then pure ([], cs.tail) else inlineFields fuel [] cs
        return (.record (Node.recordOf fields), rest)
      | _ => scalar s

/-- The items of a list, from an opening bracket or a comma to the closing bracket. A comma may stand after the last. -/
def items : Nat → Piece (List Plain)
  | 0, _ => .error .malformed
  | fuel + 1, s => do
    match ← skipGap false s with
    | ']' :: rest => return ([], rest)
    | s =>
      let (item, rest) ← value fuel s
      match ← skipGap false rest with
      | ']' :: rest => return ([item], rest)
      | ',' :: rest =>
        let (more, rest) ← items fuel rest
        return (item :: more, rest)
      | _ => .error .malformed

/-- The fields of an inline table, from a key to the closing brace. -/
def inlineFields : Nat → Fields → Piece Fields
  | 0, _, _ => .error .malformed
  | fuel + 1, fs, s => do
    let (key, rest) ← key s
    match rest with
    | '=' :: rest =>
      let (v, rest) ← value fuel (skipSpace rest)
      let fs ← fs.assign 0 [] key v
      match skipSpace rest with
      | '\x7d' :: rest => return (fs, rest)
      | ',' :: rest => inlineFields fuel fs (skipSpace rest)
      | _ => .error .malformed
    | _ => .error .malformed

end

/-- A document as far as it has been read: the number of the current section, its header, and all fields. -/
structure Document where
  sectionIndex : Nat
  header : List String
  fields : Fields

namespace Document

/-- A document of which nothing has been read. -/
def empty : Document := ⟨0, [], []⟩

/-- Reads a key and its value. -/
def readPair (d : Document) (s : List Char) : Except Fault (Document × List Char) := do
  let (key, rest) ← key s
  match rest with
  | '=' :: rest =>
    let rest := skipSpace rest
    let (v, rest) ← value (rest.length + 1) rest
    let fields ← d.fields.assign d.sectionIndex d.header key v
    return ({ d with fields }, rest)
  | _ => .error .malformed

/-- The path to what a header names, and the last name. -/
def headerPath (key : String × List String) : List Fields.Part × String :=
  ((key.1 :: key.2).dropLast.map (·, none), (key.1 :: key.2).getLast (List.cons_ne_nil _ _))

/-- Reads the header of a table, from after its bracket. -/
def readTableHeader (d : Document) (s : List Char) : Except Fault (Document × List Char) := do
  let (key, rest) ← key (skipSpace s)
  let (path, name) := headerPath key
  let fields ← d.fields.alter (Fields.define (d.sectionIndex + 1) name) path
  match rest with
  | ']' :: rest => return (⟨d.sectionIndex + 1, key.1 :: key.2, fields⟩, rest)
  | _ => .error .malformed

/-- Reads the header of a further table in a list of tables, from after its brackets. -/
def readItemHeader (d : Document) (s : List Char) : Except Fault (Document × List Char) := do
  let (key, rest) ← key (skipSpace s)
  let (path, name) := headerPath key
  let fields ← d.fields.alter (Fields.append name) path
  match rest with
  | ']' :: ']' :: rest => return (⟨d.sectionIndex + 1, key.1 :: key.2, fields⟩, rest)
  | _ => .error .malformed

/-- Reads one statement. -/
def readStatement (d : Document) : List Char → Except Fault (Document × List Char)
  | '[' :: '[' :: cs => d.readItemHeader cs
  | '[' :: cs => d.readTableHeader cs
  | cs => d.readPair cs

/-- Reads statements to the end of the text. Each line takes at least one character, so `fuel` is never used up where it is
greater than the length of the text. -/
def readAll : Nat → Document → List Char → Except Fault Document
  | 0, _, _ => .error .malformed
  | fuel + 1, d, s =>
    match skipSpace s with
    | [] => .ok d
    | c :: cs =>
      if c = '\n' ∨ c = '#' then do
        let rest ← endLine (c :: cs)
        readAll fuel d rest
      else if c = '[' ∨ beginsKey c then do
        let (d, rest) ← d.readStatement (c :: cs)
        let rest ← endLine rest
        readAll fuel d rest
      else .error .malformed

/-- A text with each carriage return and line feed in succession made one line feed. -/
def foldLineEnds : List Char → List Char
  | '\r' :: '\n' :: cs => '\n' :: foldLineEnds cs
  | c :: cs => c :: foldLineEnds cs
  | [] => []

/-- The record that a text denotes. -/
def ofText (text : String) : Except Fault (List (String × Plain)) :=
  let cs := foldLineEnds text.toList
  (readAll (cs.length + 1) empty cs).map fun d => Node.recordOf d.fields

end Document

end Reckoner.Toml
