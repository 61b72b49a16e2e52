import Reckoner.Text.CodeRange

/-!
# Blanks: what separates the tokens of a line, and what may surround a numeral

Two sets of white space are in use. A blank of a line is any character with the bidirectional type B, S or WS or the
general category Zs. The padding around a numeral is the same set without the four information separators U+001C to U+001F.
-/

namespace Reckoner

/-- The blanks of a line. -/
def blanks : CodeRanges :=
  [(0x9, 0xD), (0x1C, 0x20), (0x85, 0x85), (0xA0, 0xA0), (0x1680, 0x1680), (0x2000, 0x200A), (0x2028, 0x2029),
    (0x202F, 0x202F), (0x205F, 0x205F), (0x3000, 0x3000)]

/-- The code points of the four information separators, which are blanks but no padding. -/
def informationSeparators : CodeRanges := [(0x1C, 0x1F)]

/-- Whether a character separates tokens. -/
def isBlank (c : Char) : Bool := blanks.has c

/-- Whether a character may stand before or after the text of a numeral. -/
def isPadding (c : Char) : Bool := isBlank c && !informationSeparators.has c

/-- A text without its padding at either end. -/
def stripPadding (s : List Char) : List Char :=
  ((s.dropWhile isPadding).reverse.dropWhile isPadding).reverse

/-- Padding is blank. -/
theorem isBlank_of_isPadding {c : Char} (h : isPadding c = true) : isBlank c = true := by
  simp only [isPadding, Bool.and_eq_true] at h
  exact h.1

/-- What core calls white space is blank. -/
theorem isBlank_of_isWhitespace {c : Char} (h : c.isWhitespace = true) : isBlank c = true := by
  simp only [Char.isWhitespace, Bool.or_eq_true, decide_eq_true_eq] at h
  rcases h with ((rfl | rfl) | rfl) | rfl <;> decide

end Reckoner
