import Reckoner.Numeral
import Reckoner.Text.Quoted

/-!
# Diagnostics: a message, the place it is about, and the line with a caret under that place

Every refusal comes down to a diagnostic: a message and, if it is about a place in the line, the position of that place. Its
text names the position after the message; its report adds the line itself with a caret under the position. A position is
counted in characters from the start of the line. Hand-made ones may be negative (then they count from the end) or lie past
the end (then the caret stands one past the line).
-/

namespace Reckoner

/-- What is wrong, and where in the line. -/
structure Diagnostic where
  message : String
  position : Option Int
  deriving DecidableEq, Repr

/-- The message, followed by the position if there is one. The text of a hand-made position that is too long to be written out
is never built (`Diagnostic.text?`); a position in a line is none. -/
def Diagnostic.text (d : Diagnostic) : String :=
  match d.position with
  | none => d.message
  | some p => d.message ++ " at position: " ++ p.repr

/-- The text of a diagnostic as it is built when the diagnostic is raised: the position is written out, if it can be. -/
def Diagnostic.text? (d : Diagnostic) : Option String :=
  match d.position with
  | none => some d.message
  | some p => (Numeral.written? p).map (d.message ++ " at position: " ++ ·)

/-- The text is built exactly if the position can be written out. -/
theorem Diagnostic.text?_eq_some_iff {d : Diagnostic} {s : String} :
    d.text? = some s ↔ (∀ p ∈ d.position, Numeral.Writable p) ∧ s = d.text := by
  obtain ⟨message, _ | p⟩ := d
  · simp [text?, text, eq_comm]
  · simp only [text?, text, Option.map_eq_some_iff, Numeral.written?_eq_some_iff, Option.mem_def, Option.some.injEq,
      forall_eq']
    constructor
    · rintro ⟨_, ⟨hp, rfl⟩, rfl⟩
      exact ⟨hp, rfl⟩
    · rintro ⟨hp, rfl⟩
      exact ⟨_, ⟨hp, rfl⟩, rfl⟩

/-- A piece of text that begins no token, met at a position. -/
def Diagnostic.unexpectedCharacter (piece : String) (position : Int) : Diagnostic :=
  ⟨"Unexpected character: " ++ quoted piece, some position⟩

/-! ## The excerpt -/

/-- Whether a character ends a line. -/
def isLineEnd (c : Char) : Bool := c = '\n' || c = '\r'

/-- A text without the line ends at its end. -/
def lineBody (source : List Char) : List Char := (source.reverse.dropWhile isLineEnd).reverse

/-- A text without line ends is left as it is. -/
theorem lineBody_eq_self {cs : List Char} (h : ∀ c ∈ cs, isLineEnd c = false) : lineBody cs = cs := by
  have hkept : cs.reverse.dropWhile isLineEnd = cs.reverse := by
    cases hcs : cs.reverse with
    | nil => rfl
    | cons c ds =>
      have hc : c ∈ cs := List.mem_reverse.1 (hcs ▸ List.mem_cons_self)
      exact List.dropWhile_cons_of_neg (by simp [h c hc])
  rw [lineBody, hkept, List.reverse_reverse]

/-- Nothing but line ends is taken off a text. -/
theorem exists_lineBody_append (cs : List Char) : ∃ ends, cs = lineBody cs ++ ends ∧ ∀ c ∈ ends, isLineEnd c = true := by
  refine ⟨(cs.reverse.takeWhile isLineEnd).reverse, ?_, fun c hc => ?_⟩
  · rw [lineBody, ← List.reverse_append, List.takeWhile_append_dropWhile, List.reverse_reverse]
  · exact List.all_eq_true.1 List.all_takeWhile c (List.mem_reverse.1 hc)

/-- The part of a line before a position. A negative position counts from the end of the line. -/
def before (line : List Char) (position : Int) : List Char :=
  if position < 0 then line.take (line.length + position).toNat else line.take position.toNat

/-- What stands before the line in an excerpt. -/
def excerptMargin : List Char := "   1 | ".toList

/-- What stands before the caret so that it comes to stand under the position: blanks, and a tab for each tab of the line. -/
def caretPadding (line : List Char) (position : Int) : List Char :=
  (before line position).map fun c => if c = '\t' then '\t' else ' '

/-- The line of a source, and below it a caret under the position. -/
def excerpt (source : String) (position : Int) : String :=
  let line := lineBody source.toList
  String.ofList <|
    excerptMargin ++ line ++ '\n' :: excerptMargin.map (fun _ => ' ') ++ caretPadding line position ++ ['^']

/-- The text of a diagnostic, with the excerpt below it if the diagnostic has a position. -/
def Diagnostic.report (d : Diagnostic) (source : String) : String :=
  match d.position with
  | none => d.text
  | some p => d.text ++ "\n" ++ excerpt source p

end Reckoner
