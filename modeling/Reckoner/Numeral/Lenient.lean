import Reckoner.Numeral

/-!
# Lenient numerals: integers as texts in plain data

An integer is canonical if it is written in ASCII digits without a needless zero in front, perhaps after a minus sign. A text
that is not canonical is tidied, once, and then has to be. Tidying takes away padding, a plus sign, leading zeros, a fraction
of zeros and single low lines. Each of these looks at the text that the one before has left: so low lines among leading zeros
need not be single, and a minus sign may come after leading zeros, though not after another sign. Only a text that begins in
canonical form is refused for its length; one that is too long when it has been tidied is malformed.
-/

namespace Reckoner.Numeral.Lenient

/-- Why a text is no integer. -/
inductive Fault where
  | malformed
  /-- It begins with more digits than the longest numeral has. -/
  | oversized
  deriving DecidableEq, Repr

/-- Whether a text begins with a minus sign, and the text after it. -/
def splitMinus : List Char → Bool × List Char
  | '-' :: cs => (true, cs)
  | cs => (false, cs)

/-- The integer that a text denotes canonically. The number of digits is judged before what follows them. -/
def canonical (s : List Char) : Except Fault Int :=
  let (negative, body) := splitMinus s
  match body.takeWhile Char.isDigit with
  | [] => .error .malformed
  | '0' :: _ => if body = ['0'] then .ok 0 else .error .malformed
  | ds =>
    if digitLimit < ds.length then .error .oversized
    else if ds = body then .ok (signed negative (positional (ds.map fun d => d.toNat - '0'.toNat)))
    else .error .malformed

/-! ## Tidying -/

/-- A text without the plus sign at its front, which a minus sign may not follow. -/
def dropPlus? : List Char → Option (List Char)
  | '+' :: '-' :: _ => none
  | '+' :: cs => some cs
  | cs => some cs

/-- What a text leaves after zeros and low lines at its front, of which `last` came last. That one stays if nothing follows
it or if a point does. -/
def afterZeros? (last : Char) : List Char → Option (List Char)
  | [] => some [last]
  | c :: cs =>
    if c = '0' ∨ c = '_' then afterZeros? c cs
    else if c = '.' then some (last :: c :: cs)
    else if c.isDigit ∨ c = '-' then some (c :: cs)
    else none

/-- A text without its leading zeros. It has to begin with a digit. -/
def dropLeadingZeros? : List Char → Option (List Char)
  | '0' :: cs => afterZeros? '0' cs
  | c :: cs => if c.isDigit then some (c :: cs) else none
  | [] => none

/-- A text without its fraction, if that is a point and at least one zero, and nothing else. -/
def dropZeroFraction (s : List Char) : List Char :=
  match s.dropWhile (· ≠ '.') with
  | _ :: d :: ds => if (d :: ds).all (· = '0') then s.takeWhile (· ≠ '.') else s
  | _ => s

/-- A text without its low lines, none of which may stand at either end or next to another. The flag says whether something
other than a low line stands before the text. -/
def dropLowLines? (afterOther : Bool) : List Char → Option (List Char)
  | [] => if afterOther then some [] else none
  | c :: cs =>
    if c = '_' then if afterOther then dropLowLines? false cs else none
    else (dropLowLines? true cs).map (c :: ·)

/-- A text tidied. -/
def tidy? (s : List Char) : Option (List Char) := do
  let unsigned ← dropPlus? (stripPadding s)
  let (negative, body) := splitMinus unsigned
  let body ← dropLeadingZeros? body
  let body ← dropLowLines? false (dropZeroFraction body)
  return if negative then '-' :: body else body

/-- The integer that a text denotes, canonically or when it has been tidied. -/
def integer (s : List Char) : Except Fault Int :=
  match canonical s with
  | .error .malformed =>
    match (tidy? s).map canonical with
    | some (.ok n) => .ok n
    | _ => .error .malformed
  | result => result

end Reckoner.Numeral.Lenient
