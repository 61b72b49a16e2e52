import Reckoner.Diagnostic
import Reckoner.Expr
import Reckoner.Numeral
import Reckoner.Token

/-!
# Reading: numbers, terms and expressions off the front of a list of tokens

A reading takes tokens off the front of a list and gives its result together with the tokens left, also when it fails: what
has been taken stays taken, and a failed reading can be followed by another. A number is one token. A term is a number and
then multiplications; an expression is a number and then operations of any kind, grouped into terms. A chain of operations
goes on as long as the next token is an operator that continues it, so it looks one token ahead and needs a token after its
last number to look at.
-/

namespace Reckoner

/-- What is wrong with a token. -/
inductive SyntaxError.Cause where
  /-- A token of another kind is wanted here. -/
  | unexpected (wanted : Token.Kind)
  /-- The text of a number token is no integer. -/
  | malformed
  /-- The integer does not fit the bits. -/
  | tooWide (bits : Int)
  /-- The expression ended before this token, which is not an end mark. -/
  | leftover
  deriving DecidableEq, Repr

/-- A token that cannot stand where it stands, and why. -/
structure SyntaxError where
  cause : SyntaxError.Cause
  token : Token
  deriving DecidableEq, Repr

namespace SyntaxError

/-- The category an error is filed under. -/
def category (e : SyntaxError) : String :=
  match e.cause with
  | .unexpected _ => "unexpected-token"
  | .malformed | .tooWide _ => "number-format"
  | .leftover => "trailing-input"

/-- What is said of an error, its position apart. -/
def message (e : SyntaxError) : String :=
  match e.cause with
  | .unexpected k => "Expected: `" ++ k.name ++ "`, got: `" ++ e.token.kind.name ++ "`"
  | .malformed => "unable to parse `" ++ e.token.text ++ "`: not a decimal integer"
  | .tooWide n => "unable to parse `" ++ e.token.text ++ "`: out of range for a " ++ n.repr ++ "-bit integer"
  | .leftover => "Unknown token `" ++ e.token.text ++ "`"

/-- The kind of token that was wanted, where a single one was. -/
def wanted? (e : SyntaxError) : Option Token.Kind :=
  match e.cause with
  | .unexpected k => some k
  | _ => none

/-- The kind of token that was met, where the kind is what is wrong. -/
def met? (e : SyntaxError) : Option Token.Kind :=
  match e.cause with
  | .unexpected _ | .leftover => some e.token.kind
  | _ => none

/-- The error as a diagnostic: it is about the place of its token. -/
def diagnostic (e : SyntaxError) : Diagnostic := ⟨e.message, some e.token.position⟩

end SyntaxError

/-- Why a reading fails. -/
inductive Halt where
  /-- A token cannot stand where it stands. -/
  | refused (error : SyntaxError)
  /-- The list ends without an end mark. -/
  | exhausted
  /-- A literal meets a width of no bits. -/
  | noBits (token : Token)
  deriving DecidableEq, Repr

/-- How a failed reading shows: by a syntax error with its text, or by a failure that is no error of the tokens. -/
inductive Raised where
  /-- A syntax error. -/
  | error (error : SyntaxError) (text : String)
  /-- The list ended without an end mark. -/
  | exhausted
  /-- A literal met a width of no bits. -/
  | noBits (token : Token)
  /-- There is a syntax error, but its position is too long to be written into its text. -/
  | unwritable (error : SyntaxError)
  deriving DecidableEq, Repr

/-- How a failure shows. The text of a syntax error is written as soon as the error is there. -/
def Halt.raised : Halt → Raised
  | .refused e => e.diagnostic.text?.elim (.unwritable e) (.error e)
  | .exhausted => .exhausted
  | .noBits t => .noBits t

/-- What is said where a reading fails, if the position of the error can be written out (`Halt.raised`). -/
def Halt.message : Halt → String
  | .refused e => e.diagnostic.text
  | .exhausted => "token stream exhausted before EOF"
  | .noBits _ => "negative shift count"

/-- The integer of a number token. -/
def Token.literal (w : Width) (t : Token) : Except Halt Int :=
  match Reckoner.literal w t.text.toList with
  | .ok v => .ok v
  | .error .malformed => .error (.refused ⟨.malformed, t⟩)
  | .error (.tooWide n) => .error (.refused ⟨.tooWide n, t⟩)
  | .error .noBits => .error (.noBits t)

/-- The integer of a token that has to be a number token. -/
def Token.number (w : Width) (t : Token) : Except Halt Int :=
  if t.kind = .number then t.literal w else .error (.refused ⟨.unexpected .number, t⟩)

/-- The operator that a kind of token stands for. -/
def Token.Kind.operator? : Token.Kind → Option Operator
  | .plus => some (.join .plus)
  | .minus => some (.join .minus)
  | .times => some .times
  | _ => none

/-- A reading: what is made of the tokens at the front of a list, and the tokens left. -/
abbrev Reading (α : Type) := List Token → Except Halt α × List Token

namespace Reading

/-- The next token, left in its place. -/
def peek : Reading Token
  | [] => (.error .exhausted, [])
  | t :: ts => (.ok t, t :: ts)

/-- The next token. -/
def advance : Reading Token
  | [] => (.error .exhausted, [])
  | t :: ts => (.ok t, ts)

/-- The next token, which has to be of a given kind. -/
def eat (k : Token.Kind) : Reading Token
  | [] => (.error .exhausted, [])
  | t :: ts => if t.kind = k then (.ok t, ts) else (.error (.refused ⟨.unexpected k, t⟩), ts)

/-- A number. -/
def number (w : Width) : Reading Int
  | [] => (.error .exhausted, [])
  | t :: ts => (t.number w, ts)

/-- The operations that follow a number, as long as the operator is one that continues the chain. -/
def operations (w : Width) (continues : Operator → Bool) : Reading (List Operation)
  | [] => (.error .exhausted, [])
  | t :: ts =>
    match t.kind.operator? with
    | none => (.ok [], t :: ts)
    | some o =>
      if continues o then
        match ts with
        | [] => (.error .exhausted, [])
        | u :: us =>
          match u.number w with
          | .error h => (.error h, us)
          | .ok n =>
            let (result, rest) := operations w continues us
            (result.map ((o, n) :: ·), rest)
      else (.ok [], t :: ts)

/-- A number and the operations that follow it. -/
def chain (w : Width) (continues : Operator → Bool) : Reading (Int × List Operation) := fun ts =>
  match number w ts with
  | (.error h, rest) => (.error h, rest)
  | (.ok n, rest) =>
    let (result, rest) := operations w continues rest
    (result.map (n, ·), rest)

/-- Whether an operator continues a term. -/
def joinsFactors : Operator → Bool
  | .times => true
  | .join _ => false

/-- A term. -/
def term (w : Width) : Reading Term := fun ts =>
  let (result, rest) := chain w joinsFactors ts
  (result.map fun c => ⟨c.1, c.2.map Prod.snd⟩, rest)

/-- An expression. No end mark is wanted after it. -/
def expr (w : Width) : Reading Expr := fun ts =>
  let (result, rest) := chain w (fun _ => true) ts
  (result.map fun c => .ofOperations c.1 c.2, rest)

end Reading

/-- The expression that a list of tokens spells out, up to its first end mark. What follows the end mark does not count. -/
def Expr.ofTokens (w : Width) (ts : List Token) : Except Halt Expr :=
  match Reading.expr w ts with
  | (.error h, _) => .error h
  | (.ok _, []) => .error .exhausted
  | (.ok e, t :: _) => if t.kind = .endMark then .ok e else .error (.refused ⟨.leftover, t⟩)

/-- The expression that a list of tokens spells out, or how the reading of the list fails for the one who asked for it. -/
def Expr.read (w : Width) (ts : List Token) : Except Raised Expr := (Expr.ofTokens w ts).mapError Halt.raised

end Reckoner
