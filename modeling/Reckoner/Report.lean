import Reckoner.Layout.Grid
import Reckoner.Layout.Outline
import Reckoner.Line

/-!
# Reports: the tokens and the terms of a line, laid out

The tokens of a line are shown as a grid. Its terms are shown as an outline: a branch for each term with its sign and its
value, and below it the factors. `Expr.branches` pairs the signs with the terms; the first term has no sign. All texts of an
outline are written before any of it is shown, so there is no outline if one integer of it is too long to be written out.
-/

namespace Reckoner

/-- The width of the page that reports are laid out on, in characters. -/
def pageWidth : Nat := 80

/-- The tokens of a line as a grid. Their positions are places in a line, so they can be written out. -/
def tokenGrid (ts : List Token) : Layout.Grid :=
  { title := "Tokens"
    columns := [⟨"Pos", true⟩, ⟨"Kind", false⟩, ⟨"Text", false⟩]
    rows := ts.map fun t => [t.position.repr, t.kind.name, t.text] }

/-- The signs that stand before the terms of an expression; before the first stands none. -/
def Expr.signs (e : Expr) : List (Option Sign) := none :: e.tail.map fun st => some st.1

/-- The terms of an expression with the signs before them. -/
def Expr.branches (e : Expr) : List (Option Sign × Term) := e.signs.zip e.terms

/-! ## Outlines -/

/-- A term as it is written: its factors, with multiplication signs between. -/
def Term.written? (t : Term) : Option String := (t.factors.mapM Numeral.written?).map (" * ".intercalate ·)

/-- An expression as it is written: its first term, and each further one after its sign. -/
def Expr.written? (e : Expr) : Option String := do
  let first ← e.head.written?
  let others ← e.tail.mapM fun st => st.2.written?.map (st.1.symbol ++ " " ++ ·)
  return " ".intercalate (first :: others)

/-- What stands before the label of a term: its sign, if it has one. -/
def signText : Option Sign → String
  | none => ""
  | some s => s.symbol ++ " "

/-- The label of a term: its sign, its factors and its value. -/
def branchLabel? (sign : Option Sign) (t : Term) : Option String := do
  let term ← t.written?
  let value ← Numeral.written? t.value
  return signText sign ++ "term: " ++ term ++ " = " ++ value

/-- The branch of a term: its label, and below it its factors. -/
def branch? (sign : Option Sign) (t : Term) : Option Layout.Outline := do
  let label ← branchLabel? sign t
  let factors ← t.factors.mapM Numeral.written?
  return .node label (factors.map (.node · []))

/-- The terms and factors of an expression as an outline. -/
def Expr.outline? (e : Expr) : Option Layout.Outline := do
  let root ← e.written?
  let branches ← e.branches.mapM fun b => branch? b.1 b.2
  return .node ("expr: " ++ root) branches

end Reckoner
