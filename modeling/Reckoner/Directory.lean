/-!
# Directories: what a working directory holds, and the paths into it

A directory is a list of files and folders by the names that lead to them. A path is a list of names after a root; a path
without a root starts at the working directory. Single points and repeated slashes in the text of a path do not count. What a
path leads to is looked up name by name, so a path through a file leads nowhere. A name that is too long ends the look-up
with no answer, and so does a path that is too long as a whole. Of what lies outside the working directory only the folders
above it are known.
-/

namespace Reckoner

/-- A path: its root, which is empty for a path from the working directory, and the names after it. -/
structure Path where
  root : String
  names : List String
  deriving DecidableEq, Repr

namespace Path

/-- The name that leads from a folder to the one that holds it. -/
def parent : String := ".."

/-- The path that a text spells. Two slashes at the front are a root of their own; any other number of them is the usual
one. -/
def ofString (s : String) : Path :=
  let slashes := (s.toList.takeWhile (· = '/')).length
  { root := if slashes = 0 then "" else if slashes = 2 then "//" else "/"
    names := (s.splitOn "/").filter fun n => n ≠ "" ∧ n ≠ "." }

/-- The text of a path. -/
def text (p : Path) : String :=
  if p.root = "" ∧ p.names = [] then "." else p.root ++ "/".intercalate p.names

end Path

/-- A file with its content, or a folder. -/
inductive Entry where
  | file (content : ByteArray)
  | folder

/-- What a path leads to. -/
inductive Lookup where
  | nowhere
  /-- The path is longer, or a name on it is longer, than any that could lead somewhere. -/
  | tooLong
  | found (entry : Entry)

/-- What each path leads to. -/
abbrev Files := Path → Lookup

/-- The length of the longest name, in bytes. -/
def nameLimit : Nat := 255

/-- The length of the text of the longest path, in bytes. -/
def pathLimit : Nat := 4095

/-- What names lead to outside the working directory. -/
def lookOutside (names : List String) : Lookup :=
  match names.find? (· ≠ Path.parent) with
  | none => .found .folder
  | some n => if nameLimit < n.utf8ByteSize then .tooLong else .nowhere

/-- What a working directory holds: each entry with the names that lead to it. -/
structure Directory where
  entries : List (List String × Entry)

namespace Directory

/-- A directory that holds nothing. -/
def empty : Directory := ⟨[]⟩

/-- The entry that names lead to. The folders on the way to an entry are there without being listed. -/
def entry? (d : Directory) (names : List String) : Option Entry :=
  match d.entries.find? fun e => e.1 == names with
  | some e => some e.2
  | none => if names = [] ∨ d.entries.any (fun e => names.isPrefixOf e.1) then some .folder else none

/-- What further names lead to from a place inside the directory. -/
def follow (d : Directory) (place : List String) : List String → Lookup
  | [] =>
    match d.entry? place with
    | some e => .found e
    | none => .nowhere
  | n :: ns =>
    match d.entry? place with
    | some .folder =>
      if nameLimit < n.utf8ByteSize then .tooLong
      else if n = Path.parent then if place = [] then lookOutside ns else d.follow place.dropLast ns
      else d.follow (place ++ [n]) ns
    | _ => .nowhere

/-- What each path from the working directory leads to. No name holds a null character. -/
def files (d : Directory) : Files := fun p =>
  if p.text.contains '\x00' then .nowhere
  else if pathLimit < p.text.utf8ByteSize then .tooLong
  else if p.root = "" then d.follow [] p.names
  else lookOutside p.names

end Directory

end Reckoner
