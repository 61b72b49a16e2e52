import Reckoner.Token.Reading

/-!
# Cursors: readings one after another over one list of tokens

A cursor is a list of tokens and the index of the next one. A step is one of the readings; it is made on the tokens from the
index on, and the index moves past the tokens it took, whether it succeeded or not. Steps may follow one another at will. A
failure is told here by its cause and its token; whether its text can be written out as well is told by `Halt.raised`.
-/

namespace Reckoner

/-- One of the readings. -/
inductive Step where
  | peek | advance
  | eat (kind : Token.Kind)
  | number | term | expr
  deriving DecidableEq, Repr

/-- What a step gives. -/
inductive Step.Answer where
  | token (token : Token)
  | number (value : Int)
  | term (term : Term)
  | expr (expr : Expr)
  deriving DecidableEq, Repr

/-- A reading whose result is an answer. -/
def Reading.answer {α : Type} (f : α → Step.Answer) (r : Reading α) : Reading Step.Answer := fun ts =>
  let (result, rest) := r ts
  (result.map f, rest)

/-- The reading that a step stands for. -/
def Step.reading (w : Width) : Step → Reading Step.Answer
  | .peek => Reading.peek.answer .token
  | .advance => Reading.advance.answer .token
  | .eat k => (Reading.eat k).answer .token
  | .number => (Reading.number w).answer .number
  | .term => (Reading.term w).answer .term
  | .expr => (Reading.expr w).answer .expr

/-- A place in a list of tokens: the index of the next token. -/
structure Cursor where
  tokens : List Token
  index : Nat
  deriving DecidableEq, Repr

namespace Cursor

/-- A cursor before the first token. -/
def start (ts : List Token) : Cursor := ⟨ts, 0⟩

/-- The tokens from the index on. -/
def remaining (c : Cursor) : List Token := c.tokens.drop c.index

/-- What a step gives at a cursor, and the cursor after it. -/
def step (w : Width) (s : Step) (c : Cursor) : Except Halt Step.Answer × Cursor :=
  let (result, rest) := s.reading w c.remaining
  (result, { c with index := c.tokens.length - rest.length })

/-- What each step of a sequence gives, with the cursor after it. A failed step does not end the sequence. -/
def run (w : Width) : List Step → Cursor → List (Except Halt Step.Answer × Cursor)
  | [], _ => []
  | s :: steps, c =>
    let (result, c') := c.step w s
    (result, c') :: run w steps c'

end Cursor

end Reckoner
