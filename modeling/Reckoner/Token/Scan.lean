import Reckoner.Diagnostic
import Reckoner.Text.Blank
import Reckoner.Text.Word
import Reckoner.Token

/-!
# Scanning: from the characters of a line to its tokens

Every character belongs to a class or to none: blanks are skipped, each of `+`, `-` and `*` is a token of its own, and the
longest run of ASCII digits or of word characters is one token. The first character that belongs to no class ends the scan.
The classes are tried in that order; they do not overlap, so the order is a matter of speed alone.
-/

namespace Reckoner

/-- What a character is to the scan. -/
inductive CharClass where
  | blank
  | operator (kind : Token.Kind)
  | digit
  | wordChar
  deriving DecidableEq, Repr

/-- The kind of an operator sign. -/
def operatorKind? (c : Char) : Option Token.Kind :=
  if c = '+' then some .plus
  else if c = '-' then some .minus
  else if c = '*' then some .times
  else none

/-- The class of a character. -/
def CharClass.of? (c : Char) : Option CharClass :=
  if isBlank c then some .blank
  else
    match operatorKind? c with
    | some k => some (.operator k)
    | none => if c.isDigit then some .digit else if isWordChar c then some .wordChar else none

/-- The kind of a word: the two reserved words have kinds of their own. -/
def wordKind (w : List Char) : Token.Kind :=
  if w = "true".toList then .trueWord else if w = "false".toList then .falseWord else .word

/-- A scan came upon a character that begins no token. -/
structure ScanError where
  character : Char
  position : Nat
  deriving DecidableEq, Repr

/-- What is said of it. -/
def ScanError.diagnostic (e : ScanError) : Diagnostic :=
  .unexpectedCharacter (String.singleton e.character) e.position

/-- The tokens of the characters from position `i` on, the end mark last. -/
def scanFrom (i : Nat) : List Char → Except ScanError (List Token)
  | [] => .ok [Token.endOfLine i]
  | c :: cs =>
    match CharClass.of? c with
    | none => .error ⟨c, i⟩
    | some .blank => scanFrom (i + 1) cs
    | some (.operator k) => (scanFrom (i + 1) cs).map (⟨k, String.singleton c, i⟩ :: ·)
    | some .digit =>
      let run := c :: cs.takeWhile Char.isDigit
      (scanFrom (i + run.length) (cs.dropWhile Char.isDigit)).map (⟨.number, String.ofList run, i⟩ :: ·)
    | some .wordChar =>
      let run := c :: cs.takeWhile isWordChar
      (scanFrom (i + run.length) (cs.dropWhile isWordChar)).map (⟨wordKind run, String.ofList run, i⟩ :: ·)
termination_by cs => cs.length
decreasing_by
  all_goals simp only [List.length_cons]
  · omega
  · omega
  · have := (List.dropWhile_sublist (l := cs) Char.isDigit).length_le
    omega
  · have := (List.dropWhile_sublist (l := cs) isWordChar).length_le
    omega

/-- The tokens of a line. -/
def scan (source : String) : Except ScanError (List Token) := scanFrom 0 source.toList

end Reckoner
