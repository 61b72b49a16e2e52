import Reckoner.Text.Printable

/-!
# Quoted text: a text between quote marks, on one line and printable throughout

Messages show a piece of input between quote marks. The quote mark and the backslash are escaped by a backslash, tab, line
feed and carriage return by their letters, and every other unprintable character by its code point in lower-case
hexadecimal, in the narrowest of the forms `\xNN`, `\uNNNN` and `\UNNNNNNNN` that holds it.
-/

namespace Reckoner.Quoted

/-- The apostrophe. -/
def apostrophe : Char := '\x27'

/-- The double quotation mark. -/
def doubleQuote : Char := '\x22'

/-- The mark that encloses a text: the apostrophe, unless the text holds one and no double quotation mark. -/
def mark (s : List Char) : Char :=
  if s.contains apostrophe && !s.contains doubleQuote then doubleQuote else apostrophe

/-- A number in lower-case hexadecimal with exactly `width` digits. -/
def hexadecimal : Nat → Nat → List Char
  | 0, _ => []
  | width + 1, n => hexadecimal width (n / 16) ++ [(n % 16).digitChar]

/-- How a character is written inside the quote mark `q`. -/
def escape (q c : Char) : List Char :=
  if c = q ∨ c = '\\' then ['\\', c]
  else if c = '\t' then ['\\', 't']
  else if c = '\n' then ['\\', 'n']
  else if c = '\r' then ['\\', 'r']
  else if isPrintable c then [c]
  else if c.toNat < 0x100 then '\\' :: 'x' :: hexadecimal 2 c.toNat
  else if c.toNat < 0x10000 then '\\' :: 'u' :: hexadecimal 4 c.toNat
  else '\\' :: 'U' :: hexadecimal 8 c.toNat

/-- The characters of a quoted text, its marks included. -/
def encode (s : List Char) : List Char :=
  mark s :: s.flatMap (escape (mark s)) ++ [mark s]

end Reckoner.Quoted

namespace Reckoner

/-- A text between quote marks, with escapes. -/
def quoted (s : String) : String := String.ofList (Quoted.encode s.toList)

end Reckoner
