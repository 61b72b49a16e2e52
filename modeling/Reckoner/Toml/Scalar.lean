import Reckoner.Plain
import Reckoner.Toml.Text

/-!
# Configuration scalars: numbers, dates and times

Integers are written in decimal, hexadecimal, octal or binary digits, floating-point numbers with a fraction, an exponent or
both; single low lines may stand between digits. A decimal integer of more digits than the longest numeral is refused. Dates
have to exist in the calendar. A scalar ends where its grammar ends; what follows is for the next reading to judge.
-/

namespace Reckoner.Toml

/-! ## Numbers -/

/-- The digits at the front of a text, after a first one, and the text left. A low line counts if a digit follows it. -/
def moreDigits (isDigit : Char → Bool) : List Char → List Char × List Char
  | '_' :: d :: cs =>
    if isDigit d then
      let (ds, rest) := moreDigits isDigit cs
      (d :: ds, rest)
    else ([], '_' :: d :: cs)
  | d :: cs =>
    if isDigit d then
      let (ds, rest) := moreDigits isDigit cs
      (d :: ds, rest)
    else ([], d :: cs)
  | [] => ([], [])

/-- The digits at the front of a text, at least one, and the text left. -/
def digits? (isDigit : Char → Bool) : List Char → Option (List Char × List Char)
  | d :: cs =>
    if isDigit d then
      let (ds, rest) := moreDigits isDigit cs
      some (d :: ds, rest)
    else none
  | [] => none

/-- The number that digits of a base denote. -/
def ofDigits (base : Nat) (ds : List Char) : Nat := ds.foldl (fun n d => base * n + (hexValue? d).getD 0) 0

/-- Whether a character is a digit of a base. -/
def isDigitOf (base : Nat) (c : Char) : Bool := (hexValue? c).any (· < base)

/-- The digits of an integer part: a lone zero, or digits that do not begin with zero. -/
def integerPart? : List Char → Option (List Char × List Char)
  | '0' :: cs => some (['0'], cs)
  | cs => digits? Char.isDigit cs

/-- The fraction at the front of a text: a point and digits. -/
def fraction? : List Char → Option (List Char × List Char)
  | '.' :: cs => digits? Char.isDigit cs
  | _ => none

/-- The exponent at the front of a text. -/
def exponent? : List Char → Option (Int × List Char)
  | e :: cs =>
    if e = 'e' ∨ e = 'E' then
      let (negative, body) := Numeral.splitSign cs
      (digits? Char.isDigit body).map fun (ds, rest) => (Numeral.signed negative (ofDigits 10 ds), rest)
    else none
  | [] => none

/-- A decimal number. With a fraction or an exponent it is a floating-point number. -/
def decimal? (s : List Char) : Option (Except Fault (Plain × List Char)) :=
  let (negative, body) := Numeral.splitSign s
  (integerPart? body).map fun (whole, rest) =>
    match fraction? rest with
    | some (part, rest) =>
      let (scale, rest) := (exponent? rest).getD (0, rest)
      .ok (.float (.ofDecimal negative (ofDigits 10 (whole ++ part)) (scale - part.length)), rest)
    | none =>
      match exponent? rest with
      | some (scale, rest) => .ok (.float (.ofDecimal negative (ofDigits 10 whole) scale), rest)
      | none =>
        if whole.length ≤ Numeral.digitLimit then
          .ok (.int (Numeral.signed negative (ofDigits 10 whole)), rest)
        else .error (.oversized whole.length)

/-- The base that a letter after a leading zero announces. -/
def baseOf? (c : Char) : Option Nat :=
  match c with
  | 'x' => some 16
  | 'o' => some 8
  | 'b' => some 2
  | _ => none

/-- A number in a base of its own: a zero, the letter of the base, and digits. -/
def based? : List Char → Option (Plain × List Char)
  | '0' :: b :: cs => do
    let base ← baseOf? b
    let (ds, rest) ← digits? (isDigitOf base) cs
    return (.int (ofDigits base ds), rest)
  | _ => none

/-- An infinity or the value that is not a number, perhaps with a sign. -/
def special? (s : List Char) : Option (Plain × List Char) :=
  match (Numeral.splitSign s).2 with
  | 'i' :: 'n' :: 'f' :: rest => some (.float .infinite, rest)
  | 'n' :: 'a' :: 'n' :: rest => some (.float .notANumber, rest)
  | _ => none

/-! ## Dates and times -/

/-- A number of exactly two digits within bounds. -/
def twoDigits? (lo hi : Nat) : List Char → Option (Nat × List Char)
  | a :: b :: cs =>
    if a.isDigit && b.isDigit then
      let n := ofDigits 10 [a, b]
      if lo ≤ n ∧ n ≤ hi then some (n, cs) else none
    else none
  | _ => none

/-- The text after a given character. -/
def after? (c : Char) : List Char → Option (List Char)
  | d :: cs => if d = c then some cs else none
  | [] => none

/-- The text after the fraction of a second, if there is one. -/
def skipSecondFraction (s : List Char) : List Char :=
  match s with
  | '.' :: d :: cs => if d.isDigit then cs.dropWhile Char.isDigit else s
  | _ => s

/-- The text after a time of day. -/
def afterTime? (s : List Char) : Option (List Char) := do
  let (_, s) ← twoDigits? 0 23 s
  let s ← after? ':' s
  let (_, s) ← twoDigits? 0 59 s
  let s ← after? ':' s
  let (_, s) ← twoDigits? 0 59 s
  return skipSecondFraction s

/-- The text after an offset from universal time. -/
def afterOffset? : List Char → Option (List Char)
  | c :: cs =>
    if c = 'Z' ∨ c = 'z' then some cs
    else if c = '+' ∨ c = '-' then do
      let (_, s) ← twoDigits? 0 23 cs
      let s ← after? ':' s
      let (_, s) ← twoDigits? 0 59 s
      return s
    else none
  | [] => none

/-- The number of days of a month. -/
def daysIn (year month : Nat) : Nat :=
  if month = 2 then
    if year % 4 = 0 ∧ (year % 100 ≠ 0 ∨ year % 400 = 0) then 29 else 28
  else if month = 4 ∨ month = 6 ∨ month = 9 ∨ month = 11 then 30
  else 31

/-- The text after the time that may follow a date. -/
def afterTimeOfDate (s : List Char) : List Char :=
  match s with
  | c :: cs =>
    if c = 'T' ∨ c = 't' ∨ c = ' ' then
      match afterTime? cs with
      | some rest => (afterOffset? rest).getD rest
      | none => s
    else s
  | [] => s

/-- A date, perhaps with a time and an offset. The date has to exist. -/
def date? (s : List Char) : Option (Except Fault (Plain × List Char)) := do
  let (century, s) ← twoDigits? 0 99 s
  let (year, s) ← twoDigits? 0 99 s
  let s ← after? '-' s
  let (month, s) ← twoDigits? 1 12 s
  let s ← after? '-' s
  let (day, s) ← twoDigits? 1 31 s
  let year := 100 * century + year
  return if year = 0 ∨ daysIn year month < day then .error .malformed else .ok (.moment, afterTimeOfDate s)

/-! ## Scalars -/

/-- A truth value. -/
def truth? : List Char → Option (Plain × List Char)
  | 't' :: 'r' :: 'u' :: 'e' :: cs => some (.bool true, cs)
  | 'f' :: 'a' :: 'l' :: 's' :: 'e' :: cs => some (.bool false, cs)
  | _ => none

/-- A scalar that is no string. The forms are tried from the most to the least specific, so that a date is not taken for
the number it begins with. -/
def scalar : Piece Plain := fun s =>
  match truth? s with
  | some r => .ok r
  | none =>
    match date? s with
    | some r => r
    | none =>
      match afterTime? s with
      | some rest => .ok (.moment, rest)
      | none =>
        match based? s with
        | some r => .ok r
        | none =>
          match decimal? s with
          | some r => r
          | none =>
            match special? s with
            | some r => .ok r
            | none => .error .malformed

end Reckoner.Toml
