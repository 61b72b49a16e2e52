import Reckoner.Expr
import Reckoner.Plain

/-!
# Expressions as plain values

A term is a record of a first factor (`value`) and a list of further factors (`tail`); an expression is a record of a first
term (`term`) and a list of pairs of a sign and a term (`tail`). An absent `tail` is empty, and other fields do not matter.
`toPlain` writes an expression in this form, `ofPlain` reads one.
-/

namespace Reckoner

/-- A term as a plain value. -/
def Term.toPlain (t : Term) : Plain :=
  .record [("value", .int t.head), ("tail", .list (t.tail.map .int))]

/-- A sign as a plain value. -/
def Sign.toPlain (s : Sign) : Plain := .text s.symbol

/-- An expression as a plain value. -/
def Expr.toPlain (e : Expr) : Plain :=
  .record [("term", e.head.toPlain),
    ("tail", .list (e.tail.map fun st => .list [st.1.toPlain, st.2.toPlain]))]

/-- The sign that a plain value is. -/
def Sign.ofPlain : Plain → Check Sign
  | .text s => if s = "+" then .ok .plus else if s = "-" then .ok .minus else Check.fail .notSign
  | _ => Check.fail .notSign

/-- The list that a check of its items makes of a plain value. -/
def Plain.listOf {α : Type} (check : Plain → Check α) (p : Plain) : Check (List α) := do
  let ps ← p.asList
  Check.items check 0 ps

/-- The term that a plain value is. -/
def Term.ofPlain : Plain → Check Term
  | .record fields =>
    (Check.both (Check.required Plain.integer "value" fields)
        (Check.optional (Plain.listOf Plain.integer) [] "tail" fields)).map
      fun (head, tail) => ⟨head, tail⟩
  | _ => Check.fail (.notRecord "Term")

/-- A sign and the term it joins, as a list of exactly two items. -/
def Expr.jointOfPlain (p : Plain) : Check (Sign × Term) := do
  match ← p.asList with
  | [] => Check.both (Check.under (.index 0) (Check.fail .missing)) (Check.under (.index 1) (Check.fail .missing))
  | [s] => Check.both ((Sign.ofPlain s).under (.index 0)) (Check.under (.index 1) (Check.fail .missing))
  | [s, t] => Check.both ((Sign.ofPlain s).under (.index 0)) ((Term.ofPlain t).under (.index 1))
  | ps => Check.fail (.tooLong 2 ps.length)

/-- The expression that a plain value is. -/
def Expr.ofPlain : Plain → Check Expr
  | .record fields =>
    (Check.both (Check.required Term.ofPlain "term" fields)
        (Check.optional (Plain.listOf Expr.jointOfPlain) [] "tail" fields)).map
      fun (head, tail) => ⟨head, tail⟩
  | _ => Check.fail (.notRecord "Expr")

end Reckoner
