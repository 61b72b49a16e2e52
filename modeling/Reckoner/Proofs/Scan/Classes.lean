import Reckoner.Token.Scan

/-!
# Classes of characters: every character belongs to at most one

The scan tries blanks, signs, ASCII digits and word characters in this order. Their tables lie apart (`classes_apart`), so the
order decides nothing: `CharClass.of?` gives a class exactly to the characters of it, and gives none exactly to the characters
that are not `Scannable`. Two neighbours belong to one run if both are ASCII digits or both are word characters (`joins`).
-/

namespace Reckoner

/-! ## Tables that lie apart -/

/-- Two tables lie apart if no range of one meets a range of the other. -/
def CodeRanges.Apart (rs ss : CodeRanges) : Prop := ∀ r ∈ rs, ∀ s ∈ ss, r.2 < s.1 ∨ s.2 < r.1

instance (rs ss : CodeRanges) : Decidable (rs.Apart ss) :=
  inferInstanceAs (Decidable (∀ r ∈ rs, ∀ s ∈ ss, r.2 < s.1 ∨ s.2 < r.1))

/-- A character of one table is in no table that lies apart from it. -/
theorem CodeRanges.Apart.has_eq_false {rs ss : CodeRanges} (h : rs.Apart ss) {c : Char} (hc : rs.has c = true) :
    ss.has c = false := by
  obtain ⟨r, hr, hlo, hhi⟩ := CodeRanges.has_iff.1 hc
  rw [Bool.eq_false_iff]
  intro hs
  obtain ⟨s, hs, hlo', hhi'⟩ := CodeRanges.has_iff.1 hs
  rcases h r hr s hs with h | h <;> omega

/-- The three signs. -/
def signs : CodeRanges := [(0x2A, 0x2B), (0x2D, 0x2D)]

/-- The ASCII digits. -/
def asciiDigits : CodeRanges := [(0x30, 0x39)]

/-- The four classes lie apart from one another. -/
theorem classes_apart : [blanks, signs, asciiDigits, letters ++ otherNumerals].Pairwise CodeRanges.Apart := by
  decide +kernel

/-- The same, pair by pair. -/
theorem each_apart :
    (blanks.Apart signs ∧ blanks.Apart asciiDigits ∧ blanks.Apart (letters ++ otherNumerals)) ∧
      (signs.Apart asciiDigits ∧ signs.Apart (letters ++ otherNumerals)) ∧ asciiDigits.Apart (letters ++ otherNumerals) := by
  have hap := classes_apart
  simp only [List.pairwise_cons, List.mem_cons, List.not_mem_nil, or_false, forall_eq_or_imp, forall_eq] at hap
  obtain ⟨hblanks, hsigns, hdigits, -⟩ := hap
  exact ⟨hblanks, hsigns, hdigits⟩

/-- The table of ASCII digits has the digits. -/
theorem asciiDigits_has (c : Char) : asciiDigits.has c = c.isDigit := by
  rw [Bool.eq_iff_iff, CodeRanges.has_iff, Char.isDigit_iff_toNat]
  simp only [asciiDigits, List.mem_singleton, exists_eq_left]
  rfl

/-- The tables of letters and of other numerals together have the word characters. -/
theorem wordChars_has (c : Char) : (letters ++ otherNumerals).has c = isWordChar c := by
  simp only [CodeRanges.has, CodeRanges.hasCode, isWordChar, isLetter, isOtherNumeral, List.any_append]

/-- The table of signs has the three signs. -/
theorem signs_has_of_mem {c : Char} (h : c ∈ ['+', '-', '*']) : signs.has c = true := by
  simp only [List.mem_cons, List.not_mem_nil, or_false] at h
  rcases h with rfl | rfl | rfl <;> decide

/-- A sign has the kind of an operator, and nothing else has. -/
theorem operatorKind?_isSome_iff {c : Char} : (operatorKind? c).isSome = true ↔ c ∈ ['+', '-', '*'] := by
  simp only [operatorKind?, List.mem_cons, List.not_mem_nil, or_false]
  constructor
  · intro h
    split at h
    · exact .inl ‹_›
    · split at h
      · exact .inr (.inl ‹_›)
      · split at h
        · exact .inr (.inr ‹_›)
        · exact absurd h (by decide)
  · rintro (rfl | rfl | rfl) <;> decide

/-- Only the three signs have an operator kind. -/
theorem mem_signs_of_operatorKind? {c : Char} {k : Token.Kind} (h : operatorKind? c = some k) : c ∈ ['+', '-', '*'] :=
  operatorKind?_isSome_iff.1 (Option.isSome_of_eq_some h)

/-- The characters without an operator kind are those other than the three signs. -/
theorem operatorKind?_eq_none_iff {c : Char} : operatorKind? c = none ↔ c ∉ ['+', '-', '*'] := by
  rw [← operatorKind?_isSome_iff, Bool.not_eq_true, Option.isSome_eq_false_iff, Option.isNone_iff_eq_none]

/-! ## Each class against the classes tried after it -/

/-- A blank is of no other class. -/
theorem isBlank_excludes {c : Char} (h : isBlank c = true) :
    c ∉ ['+', '-', '*'] ∧ c.isDigit = false ∧ isWordChar c = false := by
  obtain ⟨⟨hs, hd, hw⟩, -⟩ := each_apart
  refine ⟨fun hc => ?_, ?_, ?_⟩
  · have := signs_has_of_mem hc
    rw [hs.has_eq_false h] at this
    exact absurd this (by decide)
  · rw [← asciiDigits_has]
    exact hd.has_eq_false h
  · rw [← wordChars_has]
    exact hw.has_eq_false h

/-- A sign is of no other class. -/
theorem sign_excludes {c : Char} (h : c ∈ ['+', '-', '*']) :
    isBlank c = false ∧ c.isDigit = false ∧ isWordChar c = false := by
  obtain ⟨-, ⟨hd, hw⟩, -⟩ := each_apart
  have hs := signs_has_of_mem h
  refine ⟨?_, ?_, ?_⟩
  · rw [Bool.eq_false_iff]
    exact fun hb => (isBlank_excludes hb).1 h
  · rw [← asciiDigits_has]
    exact hd.has_eq_false hs
  · rw [← wordChars_has]
    exact hw.has_eq_false hs

/-- An ASCII digit is of no other class. -/
theorem isDigit_excludes {c : Char} (h : c.isDigit = true) :
    isBlank c = false ∧ operatorKind? c = none ∧ isWordChar c = false := by
  obtain ⟨-, -, hw⟩ := each_apart
  refine ⟨?_, ?_, ?_⟩
  · rw [Bool.eq_false_iff]
    intro hb
    rw [(isBlank_excludes hb).2.1] at h
    exact absurd h (by decide)
  · rw [operatorKind?_eq_none_iff]
    intro hs
    rw [(sign_excludes hs).2.1] at h
    exact absurd h (by decide)
  · rw [← wordChars_has]
    exact hw.has_eq_false (asciiDigits_has c ▸ h)

/-- A word character is of no other class. -/
theorem isWordChar_excludes {c : Char} (h : isWordChar c = true) :
    isBlank c = false ∧ operatorKind? c = none ∧ c.isDigit = false := by
  have key : ∀ {p : Prop}, (p → isWordChar c = false) → ¬p := fun hp h' => by
    rw [hp h'] at h
    exact absurd h (by decide)
  refine ⟨?_, ?_, ?_⟩
  · rw [Bool.eq_false_iff]
    exact key fun hb => (isBlank_excludes hb).2.2
  · rw [operatorKind?_eq_none_iff]
    exact key fun hs => (sign_excludes hs).2.2
  · rw [Bool.eq_false_iff]
    exact key fun hd => (isDigit_excludes hd).2.2

/-! ## What the scan makes of a character -/

/-- The characters that a line may hold: blanks, signs, ASCII digits and word characters. -/
def Scannable (c : Char) : Prop :=
  isBlank c = true ∨ c ∈ ['+', '-', '*'] ∨ c.isDigit = true ∨ isWordChar c = true

/-- A blank is classed as one. -/
theorem of?_blank {c : Char} (h : isBlank c = true) : CharClass.of? c = some .blank := by
  simp only [CharClass.of?, h, if_true]

theorem of?_operator {c : Char} {k : Token.Kind} (h : operatorKind? c = some k) :
    CharClass.of? c = some (.operator k) := by
  have hb := (sign_excludes (mem_signs_of_operatorKind? h)).1
  simp only [CharClass.of?, hb, h, Bool.false_eq_true, if_false]

theorem of?_digit {c : Char} (h : c.isDigit = true) : CharClass.of? c = some .digit := by
  obtain ⟨hb, ho, -⟩ := isDigit_excludes h
  simp only [CharClass.of?, hb, ho, h, Bool.false_eq_true, if_false, if_true]

theorem of?_wordChar {c : Char} (h : isWordChar c = true) : CharClass.of? c = some .wordChar := by
  obtain ⟨hb, ho, hd⟩ := isWordChar_excludes h
  simp only [CharClass.of?, hb, ho, hd, h, Bool.false_eq_true, if_false, if_true]

/-- The characters without a class are those that cannot be scanned. -/
theorem of?_eq_none_iff {c : Char} : CharClass.of? c = none ↔ ¬Scannable c := by
  constructor
  · intro h hc
    rcases hc with hb | hs | hd | hw
    · rw [of?_blank hb] at h
      exact absurd h nofun
    · obtain ⟨k, hk⟩ := Option.isSome_iff_exists.1 (operatorKind?_isSome_iff.2 hs)
      rw [of?_operator hk] at h
      exact absurd h nofun
    · rw [of?_digit hd] at h
      exact absurd h nofun
    · rw [of?_wordChar hw] at h
      exact absurd h nofun
  · intro h
    simp only [Scannable, not_or, Bool.not_eq_true, ← operatorKind?_eq_none_iff] at h
    obtain ⟨hb, ho, hd, hw⟩ := h
    simp only [CharClass.of?, hb, ho, hd, hw, Bool.false_eq_true, if_false]

/-! ## Runs -/

/-- Whether two neighbours belong to one run: both are ASCII digits, or both are word characters. -/
def joins (c d : Char) : Bool := c.isDigit && d.isDigit || isWordChar c && isWordChar d

/-- Whether two neighbours belong to one run does not depend on their order. -/
theorem joins_comm (c d : Char) : joins c d = joins d c := by
  simp only [joins, Bool.and_comm]

/-- A blank joins no character. -/
theorem joins_of_isBlank {c : Char} (h : isBlank c = true) (d : Char) : joins c d = false := by
  simp only [joins, (isBlank_excludes h).2.1, (isBlank_excludes h).2.2, Bool.false_and, Bool.or_self]

end Reckoner
