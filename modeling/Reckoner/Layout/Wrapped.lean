/-!
# Wrapped text: a text in lines of a given width

A text is a sequence of words with single blanks between. Lines are filled word by word. A word that does not fit the line
begins the next one, and the blank before it stays behind as far as there is room. A word that fits no line begins a line of
its own and is cut wherever the line is full.
-/

namespace Reckoner.Layout

/-- A text on its way into lines: the lines that are done, the latest first, and the line that is being filled. -/
structure Wrapping where
  done : List (List Char)
  line : List Char

namespace Wrapping

/-- Ends the line, unless it is empty. -/
def endLine (w : Wrapping) : Wrapping := if w.line.isEmpty then w else ⟨w.line :: w.done, []⟩

/-- Adds a character, to a new line if the line is full. -/
def addChar (width : Nat) (w : Wrapping) (c : Char) : Wrapping :=
  if w.line.length < width then { w with line := w.line ++ [c] } else ⟨w.line :: w.done, [c]⟩

/-- Adds a word and the blank after it, if there is one. -/
def addWord (width : Nat) (w : Wrapping) (word blank : List Char) : Wrapping :=
  if w.line.length + word.length ≤ width then { w with line := w.line ++ word ++ blank }
  else if width < word.length then (word ++ blank).foldl (addChar width) w.endLine
  else { w.endLine with line := word ++ blank }

/-- Adds words with a blank between each two. -/
def addWords (width : Nat) : Wrapping → List (List Char) → Wrapping
  | w, [] => w
  | w, [word] => w.addWord width word []
  | w, word :: words => addWords width (w.addWord width word [' ']) words

end Wrapping

/-- The lines of a text. A blank that does not fit its line is left out. -/
def wrap (width : Nat) (s : String) : List String :=
  let w := Wrapping.addWords width ⟨[], []⟩ ((s.splitOn " ").map String.toList)
  (w.line :: w.done).reverse.map fun l => String.ofList (l.take width)

end Reckoner.Layout
