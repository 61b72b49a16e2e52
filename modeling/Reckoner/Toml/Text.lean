/-!
# Configuration text: strings, keys, comments and the gaps between

The pieces of a configuration document that are read character by character. A reading gives what it read and the characters
left. Control characters other than the tab are allowed nowhere but, as line feeds, where a line may end.
-/

namespace Reckoner.Toml

/-- Why a document cannot be read. -/
inductive Fault where
  /-- The document breaks the grammar, or defines something twice. -/
  | malformed
  /-- A decimal integer has more digits than the longest numeral. -/
  | oversized (digits : Nat)
  deriving DecidableEq, Repr

/-- A reading of a piece of text: what was read, and the characters left. -/
abbrev Piece (α : Type) := List Char → Except Fault (α × List Char)

/-- Whether a character is a control character that may not stand within a line. -/
def isControl (c : Char) : Bool := (c.toNat < 0x20 && c != '\t') || c.toNat == 0x7F

/-- Whether a character is white space within a line. -/
def isSpace (c : Char) : Bool := c = ' ' || c = '\t'

/-- The text after the white space at its front. -/
def skipSpace (s : List Char) : List Char := s.dropWhile isSpace

/-! ## Gaps -/

/-- The text after white space, line ends and comments. The flag says whether the text begins inside a comment. -/
def skipGap (inComment : Bool) : List Char → Except Fault (List Char)
  | [] => .ok []
  | c :: cs =>
    if inComment then
      if c = '\n' then skipGap false cs else if isControl c then .error .malformed else skipGap true cs
    else if c = '\n' || isSpace c then skipGap false cs
    else if c = '#' then skipGap true cs
    else .ok (c :: cs)

/-- The text after the end of a line. White space and a comment may stand before the end; nothing else may. -/
def endLine (s : List Char) : Except Fault (List Char) :=
  match skipSpace s with
  | '#' :: cs =>
    let (comment, rest) := (cs.takeWhile (· != '\n'), cs.dropWhile (· != '\n'))
    if comment.any isControl then .error .malformed else .ok rest.tail
  | [] => .ok []
  | '\n' :: cs => .ok cs
  | _ => .error .malformed

/-! ## Strings -/

/-- The value of a hexadecimal digit. -/
def hexValue? (c : Char) : Option Nat :=
  if c.isDigit then some (c.toNat - '0'.toNat)
  else if 'a' ≤ c ∧ c ≤ 'f' then some (c.toNat - 'a'.toNat + 10)
  else if 'A' ≤ c ∧ c ≤ 'F' then some (c.toNat - 'A'.toNat + 10)
  else none

/-- The character that an escape of one letter stands for. -/
def escaped? (c : Char) : Option Char :=
  match c with
  | 'b' => some '\x08'
  | 't' => some '\t'
  | 'n' => some '\n'
  | 'f' => some '\x0C'
  | 'r' => some '\r'
  | '\x22' => some '\x22'
  | '\\' => some '\\'
  | _ => none

/-- Where a reading of an escaped string stands. -/
inductive StringState where
  /-- Between characters. -/
  | plain
  /-- After a backslash. -/
  | backslash
  /-- Within a code point: how many digits are to come, and the value so far. -/
  | code (digits value : Nat)
  /-- After a backslash at the end of a line, which joins the line to the next text. The flag says whether the line has
  ended. -/
  | joined (ended : Bool)
  deriving DecidableEq, Repr

/-- Puts a character before a string that was read. -/
def cons (c : Char) (r : Except Fault (List Char × List Char)) : Except Fault (List Char × List Char) :=
  r.map fun (s, rest) => (c :: s, rest)

/-- Up to two quote marks that directly follow a closing delimiter belong to the string. -/
def closeLong (q : Char) : List Char → List Char × List Char
  | a :: b :: rest => if a = q then if b = q then ([q, q], rest) else ([q], b :: rest) else ([], a :: b :: rest)
  | [a] => if a = q then ([q], []) else ([], [a])
  | [] => ([], [])

/-- The rest of a string with escapes, from within it to its closing delimiter. A long string may span lines, may hold quote
marks, and ends with three of them. -/
def escapedString (long : Bool) : StringState → Piece (List Char)
  | _, [] => .error .malformed
  | .backslash, c :: cs =>
    if c = 'u' then escapedString long (.code 4 0) cs
    else if c = 'U' then escapedString long (.code 8 0) cs
    else if long && isSpace c then escapedString long (.joined false) cs
    else if long && c = '\n' then escapedString long (.joined true) cs
    else
      match escaped? c with
      | some e => cons e (escapedString long .plain cs)
      | none => .error .malformed
  | .code digits value, c :: cs =>
    match hexValue? c with
    | none => .error .malformed
    | some d =>
      let value := 16 * value + d
      if digits = 1 then
        if value.isValidChar then cons (Char.ofNat value) (escapedString long .plain cs) else .error .malformed
      else escapedString long (.code (digits - 1) value) cs
  | .joined false, c :: cs =>
    if isSpace c then escapedString long (.joined false) cs
    else if c = '\n' then escapedString long (.joined true) cs
    else .error .malformed
  | state, c :: cs =>
    if state = .joined true && (isSpace c || c = '\n') then escapedString long (.joined true) cs
    else if c = '\\' then escapedString long .backslash cs
    else if c = '\x22' then
      if long then
        match cs with
        | '\x22' :: '\x22' :: rest => .ok (closeLong '\x22' rest)
        | _ => cons c (escapedString long .plain cs)
      else .ok ([], cs)
    else if isControl c && !(long && c = '\n') then .error .malformed
    else cons c (escapedString long .plain cs)

/-- The rest of a string without escapes, from within it to its closing delimiter. -/
def literalString (long : Bool) : Piece (List Char)
  | [] => .error .malformed
  | c :: cs =>
    if c = '\x27' then
      if long then
        match cs with
        | '\x27' :: '\x27' :: rest => .ok (closeLong '\x27' rest)
        | _ => cons c (literalString long cs)
      else .ok ([], cs)
    else if isControl c && !(long && c = '\n') then .error .malformed
    else cons c (literalString long cs)

/-- A line feed right after the opening delimiter of a long string does not belong to it. -/
def openLong : List Char → List Char
  | '\n' :: cs => cs
  | cs => cs

/-- A string of any of the four forms, if the text begins with one. -/
def string? : List Char → Option (Except Fault (List Char × List Char))
  | '\x22' :: '\x22' :: '\x22' :: cs => some (escapedString true .plain (openLong cs))
  | '\x22' :: cs => some (escapedString false .plain cs)
  | '\x27' :: '\x27' :: '\x27' :: cs => some (literalString true (openLong cs))
  | '\x27' :: cs => some (literalString false cs)
  | _ => none

/-! ## Keys -/

/-- Whether a character may stand in a key without quote marks. -/
def isBareKeyChar (c : Char) : Bool := c.isAlphanum || c = '_' || c = '-'

/-- Whether a character may begin a key. -/
def beginsKey (c : Char) : Bool := isBareKeyChar c || c = '\x22' || c = '\x27'

/-- One part of a key: bare, or a string on one line. -/
def keyPart : Piece String
  | '\x22' :: cs => (escapedString false .plain cs).map fun (s, rest) => (String.ofList s, rest)
  | '\x27' :: cs => (literalString false cs).map fun (s, rest) => (String.ofList s, rest)
  | cs =>
    match cs.takeWhile isBareKeyChar with
    | [] => .error .malformed
    | part => .ok (String.ofList part, cs.dropWhile isBareKeyChar)

/-- The parts of a key after the first, each after a point. As a part takes at least one character, `fuel` is never used up
where it is the length of the text. -/
def keyParts : Nat → Piece (List String)
  | 0, _ => .error .malformed
  | fuel + 1, s =>
    match skipSpace s with
    | '.' :: cs => do
      let (part, rest) ← keyPart (skipSpace cs)
      let (parts, rest) ← keyParts fuel rest
      return (part :: parts, rest)
    | cs => .ok ([], cs)

/-- A key: its parts from the outside in. White space after it is read as well. -/
def key : Piece (String × List String) := fun s => do
  let (part, rest) ← keyPart s
  let (parts, rest) ← keyParts (rest.length + 1) rest
  return ((part, parts), rest)

end Reckoner.Toml
