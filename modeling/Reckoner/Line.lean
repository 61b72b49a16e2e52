import Reckoner.Token.Reading
import Reckoner.Token.Scan

/-!
# Lines: a line of arithmetic from its characters to its value

A line is scanned, then read as an expression, then evaluated; the first stage that fails ends it. `Line.run` gives the
outcome together with the events on the way, one for each stage that was reached; `Line.evaluate` gives the outcome alone.
-/

namespace Reckoner.Line

/-- What an accepted line comes to: its tokens, its expression and its value. -/
structure Evaluation where
  tokens : List Token
  expr : Expr
  value : Int
  deriving DecidableEq, Repr

/-- Why a line is not accepted. -/
inductive Refusal where
  /-- A character begins no token. -/
  | scan (error : ScanError)
  /-- The tokens are no expression. -/
  | reading (halt : Halt)
  deriving DecidableEq, Repr

/-- What happens on the way. -/
inductive Event where
  | running (line : String)
  | scanned (count : Nat) (line : String)
  | parsed (expr : Expr)
  | evaluated (expr : Expr) (value : Int)
  deriving DecidableEq, Repr

/-- Scans, reads and evaluates a line: the events, in their order, and the outcome. -/
def run (w : Width) (line : String) : List Event × Except Refusal Evaluation :=
  match scan line with
  | .error e => ([.running line], .error (.scan e))
  | .ok tokens =>
    match Expr.ofTokens w tokens with
    | .error h => ([.running line, .scanned tokens.length line], .error (.reading h))
    | .ok expr =>
      ([.running line, .scanned tokens.length line, .parsed expr, .evaluated expr expr.value],
        .ok ⟨tokens, expr, expr.value⟩)

/-- The outcome of a line. -/
def evaluate (w : Width) (line : String) : Except Refusal Evaluation := (run w line).2

/-- The expression of a line. -/
def parse (w : Width) (line : String) : Except Refusal Expr := (evaluate w line).map (·.expr)

/-- The value of a line. -/
def value (w : Width) (line : String) : Except Refusal Int := (evaluate w line).map (·.value)

/-- The diagnostic of a refusal, if it is about a place in the line. -/
def Refusal.diagnostic? : Refusal → Option Diagnostic
  | .scan e => some e.diagnostic
  | .reading (.refused e) => some e.diagnostic
  | .reading .exhausted | .reading (.noBits _) => none

end Reckoner.Line
