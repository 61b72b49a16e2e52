import Reckoner.Proofs.Scan.Tokenization
import Reckoner.Text.Digit

/-!
# Letters: what the words of a line are made of

Word characters are of two sorts that lie apart: the letters, and the numerals that are no decimal digits (`letters_apart`).
So a word need not consist of letters alone (`scan_superscript`). A line that is scanned has words of letters alone exactly if
it holds nothing but blanks, signs, ASCII digits and letters; every other numeral in it is part of a word, and so none makes a
scan fail (`scan_letters`). A decimal digit, of whatever script, is part of no word.
-/

namespace Reckoner

/-- Blanks, signs, ASCII digits and letters. -/
def Ordinary (c : Char) : Prop :=
  isBlank c = true ∨ c ∈ ['+', '-', '*'] ∨ c.isDigit = true ∨ isLetter c = true

/-- The kinds of words, the reserved ones included. -/
def Token.Kind.IsWord (k : Token.Kind) : Prop := k = .word ∨ k = .trueWord ∨ k = .falseWord

/-! ## Tables that ascend

The tables of letters are too long to be compared range by range. Two tables that ascend are compared in one pass over both.
-/

namespace CodeRanges

/-- Whether the ranges of a table ascend, from a number on. -/
def ascendsFrom (n : Nat) : CodeRanges → Bool
  | [] => true
  | r :: rs => n.ble r.1 && r.1.ble r.2 && ascendsFrom (r.2 + 1) rs

/-- Whether each range of a table lies apart from the ranges of another one, of which those below it are left behind. -/
def passes : CodeRanges → CodeRanges → Bool
  | [], _ => true
  | r :: rs, ss =>
    let rest := ss.dropWhile fun s => s.2.blt r.1
    (rest.head?.all fun s => r.2.blt s.1) && passes rs rest

section

variable {n m : Nat} {r s : Nat × Nat} {rs ss : CodeRanges}

/-- A table ascends if its first range does and the others ascend past it. -/
theorem ascendsFrom_cons_iff : ascendsFrom n (r :: rs) = true ↔ (n ≤ r.1 ∧ r.1 ≤ r.2) ∧ ascendsFrom (r.2 + 1) rs = true := by
  simp only [ascendsFrom, Bool.and_eq_true, Nat.ble_eq]

/-- The ranges of a table that ascends from a number on begin no lower. -/
theorem le_of_ascendsFrom (h : ascendsFrom n rs = true) (hr : r ∈ rs) : n ≤ r.1 ∧ r.1 ≤ r.2 := by
  induction rs generalizing n with
  | nil => cases hr
  | cons r' rs ih =>
    obtain ⟨hr', hrs⟩ := ascendsFrom_cons_iff.1 h
    rcases List.mem_cons.1 hr with rfl | hr
    · exact hr'
    · have := ih hrs hr
      omega

/-- What is left of an ascending table ascends. -/
theorem exists_ascendsFrom_dropWhile {p : Nat × Nat → Bool} (h : ascendsFrom n rs = true) :
    ∃ m, ascendsFrom m (rs.dropWhile p) = true := by
  induction rs generalizing n with
  | nil => exact ⟨n, h⟩
  | cons r rs ih =>
    cases hp : p r with
    | true =>
      rw [List.dropWhile_cons_of_pos hp]
      exact ih (ascendsFrom_cons_iff.1 h).2
    | false =>
      rw [List.dropWhile_cons_of_neg (by rw [hp]; decide)]
      exact ⟨n, h⟩

/-- If the first range of an ascending table begins above a number, all do. -/
theorem lt_of_head (hss : ascendsFrom m ss = true) (h : (ss.head?.all fun s => n.blt s.1) = true) (hs : s ∈ ss) : n < s.1 := by
  cases ss with
  | nil => cases hs
  | cons s' ss =>
    obtain ⟨hs', hss⟩ := ascendsFrom_cons_iff.1 hss
    have hhead : n < s'.1 := Nat.blt_eq.mp h
    rcases List.mem_cons.1 hs with rfl | hs
    · exact hhead
    · have := le_of_ascendsFrom hss hs
      omega

/-- Ascending tables that pass the comparison lie apart. -/
theorem apart_of_passes (hrs : ascendsFrom n rs = true) (hss : ascendsFrom m ss = true) (h : passes rs ss = true) :
    rs.Apart ss := by
  induction rs generalizing n m ss with
  | nil => exact fun r hr => by cases hr
  | cons r rs ih =>
    obtain ⟨hr, hrs⟩ := ascendsFrom_cons_iff.1 hrs
    obtain ⟨hhead, hrest⟩ := (Bool.and_eq_true _ _).mp h
    obtain ⟨m', hss'⟩ := exists_ascendsFrom_dropWhile (p := fun s => s.2.blt r.1) hss
    intro r' hr' s hs
    rw [← List.takeWhile_append_dropWhile (p := fun s => s.2.blt r.1) (l := ss)] at hs
    rcases List.mem_append.1 hs with hs | hs
    · have hbelow : s.2 < r.1 := Nat.blt_eq.mp (List.all_eq_true.1 List.all_takeWhile s hs)
      rcases List.mem_cons.1 hr' with rfl | hr'
      · exact .inr hbelow
      · have := le_of_ascendsFrom hrs hr'
        omega
    · rcases List.mem_cons.1 hr' with rfl | hr'
      · exact .inl (lt_of_head hss' hhead hs)
      · exact ih hrs hss' hrest r' hr' s hs

end

end CodeRanges

/-! ## Letters and other numerals -/

/-- The decimal digits of all scripts. -/
def decimalDigits : CodeRanges := digitZeros.map fun z => (z, z + 9)

/-- The tables of decimal digits, of letters and of other numerals ascend, and each two of them pass the comparison. -/
theorem tables_pass :
    (decimalDigits.ascendsFrom 0 = true ∧ letters.ascendsFrom 0 = true ∧ otherNumerals.ascendsFrom 0 = true) ∧
      letters.passes otherNumerals = true ∧ decimalDigits.passes letters = true ∧
      decimalDigits.passes otherNumerals = true := by
  decide +kernel

/-- No letter is one of the other numerals. -/
theorem letters_apart : letters.Apart otherNumerals := by
  obtain ⟨⟨-, hletters, hothers⟩, hpass, -⟩ := tables_pass
  exact CodeRanges.apart_of_passes hletters hothers hpass

/-- No decimal digit is a letter or one of the other numerals. -/
theorem decimalDigits_apart : decimalDigits.Apart letters ∧ decimalDigits.Apart otherNumerals := by
  obtain ⟨⟨hdigits, hletters, hothers⟩, -, hpass, hpass'⟩ := tables_pass
  exact ⟨CodeRanges.apart_of_passes hdigits hletters hpass, CodeRanges.apart_of_passes hdigits hothers hpass'⟩

section

variable {c : Char} {k : Token.Kind} {l : List Char}

/-- A character with a digit value is a decimal digit. -/
theorem decimalDigits_has_of_digitValue? {d : Nat} (h : digitValue? c = some d) : decimalDigits.has c = true := by
  obtain ⟨z, hz, -⟩ := Option.map_eq_some_iff.1 h
  have hrange := List.find?_some hz
  simp only [Bool.and_eq_true, decide_eq_true_eq] at hrange
  exact CodeRanges.has_iff.2 ⟨(z, z + 9), List.mem_map.2 ⟨z, List.mem_of_find?_eq_some hz, rfl⟩, hrange⟩

/-- A word character has no digit value. -/
theorem digitValue?_eq_none_of_isWordChar (h : isWordChar c = true) : digitValue? c = none := by
  cases hd : digitValue? c with
  | none => rfl
  | some d =>
    have hhas := decimalDigits_has_of_digitValue? hd
    have hletter : isLetter c = false := decimalDigits_apart.1.has_eq_false hhas
    have hother : isOtherNumeral c = false := decimalDigits_apart.2.has_eq_false hhas
    rw [isWordChar, hletter, hother] at h
    exact absurd h (by decide)

/-- A numeral that is no decimal digit is a word character. -/
theorem isWordChar_of_isOtherNumeral (h : isOtherNumeral c = true) : isWordChar c = true := by
  rw [isWordChar, h, Bool.or_true]

theorem isLetter_eq_false_of_isOtherNumeral (h : isOtherNumeral c = true) : isLetter c = false := by
  cases hl : isLetter c with
  | false => rfl
  | true =>
    have hfalse : isOtherNumeral c = false := letters_apart.has_eq_false hl
    rw [h] at hfalse
    exact absurd hfalse (by decide)

/-- The other numerals are no ordinary characters. -/
theorem not_ordinary_of_isOtherNumeral (h : isOtherNumeral c = true) : ¬Ordinary c := by
  obtain ⟨hblank, hsign, hdigit⟩ := isWordChar_excludes (isWordChar_of_isOtherNumeral h)
  rintro (hb | hs | hd | hl)
  · rw [hblank] at hb
    exact absurd hb (by decide)
  · exact operatorKind?_eq_none_iff.1 hsign hs
  · rw [hdigit] at hd
    exact absurd hd (by decide)
  · rw [isLetter_eq_false_of_isOtherNumeral h] at hl
    exact absurd hl (by decide)

/-- The characters that a line may hold are the ordinary ones and the other numerals. -/
theorem scannable_iff : Scannable c ↔ Ordinary c ∨ isOtherNumeral c = true := by
  rw [Scannable, Ordinary, isWordChar, Bool.or_eq_true, or_assoc, or_assoc, or_assoc]

/-- The characters that cannot be scanned are those that are neither ordinary nor another numeral. -/
theorem not_scannable_iff : ¬Scannable c ↔ ¬Ordinary c ∧ isOtherNumeral c = false := by
  rw [scannable_iff, not_or, Bool.not_eq_true]

/-! ## Words -/

theorem isWord_wordKind (l : List Char) : (wordKind l).IsWord := by
  unfold wordKind
  split
  · exact .inr (.inl rfl)
  · split
    · exact .inr (.inr rfl)
    · exact .inl rfl

/-- The kind of an operator is none of the kinds of words. -/
theorem not_isWord_of_operatorKind? (h : operatorKind? c = some k) : ¬k.IsWord := by
  have hc := mem_signs_of_operatorKind? h
  simp only [List.mem_cons, List.not_mem_nil, or_false] at hc
  rintro (rfl | rfl | rfl) <;> rcases hc with rfl | rfl | rfl <;> cases h

/-- A lexeme that is a word consists of word characters. -/
theorem Lexeme.isWordChar_of_isWord (h : Lexeme k l) (hk : k.IsWord) (hc : c ∈ l) : isWordChar c = true := by
  rcases h.shape with ⟨d, hd, -⟩ | ⟨rfl, -⟩ | ⟨-, hcs⟩
  · exact absurd hk (not_isWord_of_operatorKind? hd)
  · rcases hk with hk | hk | hk <;> cases hk
  · exact hcs c hc

/-- A lexeme that holds a word character is a word. -/
theorem Lexeme.isWord_of_mem (h : Lexeme k l) (hc : c ∈ l) (hw : isWordChar c = true) : k.IsWord := by
  obtain ⟨x, hx, rfl⟩ := h.exists_class hc
  rw [of?_wordChar hw] at hx
  obtain rfl := Option.some.inj hx
  exact isWord_wordKind l

/-- The reserved words consist of letters. -/
theorem Lexeme.isLetter_of_reserved (h : Lexeme k l) (hk : k = .trueWord ∨ k = .falseWord) (hc : c ∈ l) :
    isLetter c = true := by
  have hreserved : ∀ d ∈ "true".toList ++ "false".toList, isLetter d = true := List.all_eq_true.1 (by decide)
  cases h with
  | trueWord => exact hreserved c (List.mem_append_left _ hc)
  | falseWord => exact hreserved c (List.mem_append_right _ hc)
  | _ => rcases hk with hk | hk <;> cases hk

/-- The character at a position that a token covers is one of its own. -/
theorem mem_of_covers {t : Token} {p : Nat} {cs : List Char} (h : t.LiesIn 0 cs) (hcov : t.Covers p)
    (hc : cs[p]? = some c) : c ∈ t.text.toList := by
  obtain ⟨-, before, after, rfl, hp, -, -⟩ := h
  unfold Token.Covers at hcov
  rw [hp, ← String.length_toList] at hcov
  rw [List.append_assoc, List.getElem?_append_right (by omega), List.getElem?_append_left (by omega)] at hc
  exact List.mem_of_getElem? hc

end

/-! ## Words of a line -/

section

variable {source : String} {ts : List Token} {t : Token} {c : Char}

theorem Token.Kind.IsWord.ne_endMark {k : Token.Kind} (h : k.IsWord) : k ≠ .endMark := by
  rcases h with rfl | rfl | rfl <;> decide

/-- A word of a line lies in it. -/
theorem liesIn_of_mem_scan (h : scan source = .ok ts) (ht : t ∈ ts) (hk : t.kind.IsWord) : t.LiesIn 0 source.toList := by
  obtain ⟨us, rfl, hus⟩ := scan_eq_ok_iff.1 h
  rcases List.mem_append.1 ht with ht | ht
  · exact hus.lies t ht
  · obtain rfl := List.mem_singleton.1 ht
    exact absurd rfl hk.ne_endMark

/-- The words of a scanned line consist of word characters. -/
theorem isWordChar_of_mem_scan (h : scan source = .ok ts) (ht : t ∈ ts) (hk : t.kind.IsWord) (hc : c ∈ t.text.toList) :
    isWordChar c = true :=
  (liesIn_of_mem_scan h ht hk).1.isWordChar_of_isWord hk hc

/-- A line that is one run of word characters is one word. -/
theorem scan_eq_word {l : List Char} (hne : l ≠ []) (hw : ∀ c ∈ l, isWordChar c = true) :
    scan (String.ofList l) = .ok [⟨wordKind l, String.ofList l, 0⟩, Token.endOfLine l.length] := by
  have hstop : (wordKind l).StopsAt [] := nofun
  have hrun := scanFrom_lexeme (lexeme_wordKind hne hw) hstop 0
  rw [List.append_nil, scanFrom_nil, Nat.zero_add] at hrun
  rw [scan, String.toList_ofList, hrun]
  rfl

/-- Every word character of a line that is scanned is part of a word. -/
theorem exists_word_of_mem (h : scan source = .ok ts) (hc : c ∈ source.toList) (hw : isWordChar c = true) :
    ∃ t ∈ ts, t.kind.IsWord ∧ c ∈ t.text.toList := by
  obtain ⟨us, rfl, hus⟩ := scan_eq_ok_iff.1 h
  obtain ⟨p, hp⟩ := List.getElem?_of_mem hc
  obtain ⟨t, ht, hcov⟩ := hus.exists_covers hp (isWordChar_excludes hw).1
  rw [Nat.zero_add] at hcov
  have hmem := mem_of_covers (hus.lies t ht) hcov hp
  exact ⟨t, List.mem_append_left _ ht, (hus.lies t ht).1.isWord_of_mem hmem hw, hmem⟩

end

/-- A scan fails exactly on a line with a character that is neither ordinary nor one of the other numerals. On every other
line its words consist of letters and other numerals, the reserved ones of letters; each of the other numerals is part of a
word; and all words consist of letters exactly if all characters of the line are ordinary. -/
theorem scan_letters (source : String) :
    ((∃ e, scan source = .error e) ↔ ∃ c ∈ source.toList, ¬Ordinary c ∧ isOtherNumeral c = false) ∧
      ∀ ts, scan source = .ok ts →
        (∀ t ∈ ts, t.kind.IsWord → ∀ c ∈ t.text.toList,
          digitValue? c = none ∧ (isLetter c = true ∨ isOtherNumeral c = true)) ∧
        (∀ t ∈ ts, t.kind = .trueWord ∨ t.kind = .falseWord → ∀ c ∈ t.text.toList, isLetter c = true) ∧
        (∀ c ∈ source.toList, isOtherNumeral c = true → ∃ t ∈ ts, t.kind = .word ∧ c ∈ t.text.toList) ∧
        ((∀ t ∈ ts, t.kind.IsWord → ∀ c ∈ t.text.toList, isLetter c = true) ↔ ∀ c ∈ source.toList, Ordinary c) := by
  obtain ⟨hfails, -, hscans, -⟩ := scan_exact source
  refine ⟨hfails.trans (exists_congr fun c => and_congr_right fun _ => not_scannable_iff), fun ts hts => ⟨?_, ?_, ?_, ?_, ?_⟩⟩
  · intro t ht hk c hc
    have hw := isWordChar_of_mem_scan hts ht hk hc
    exact ⟨digitValue?_eq_none_of_isWordChar hw, Bool.or_eq_true_iff.1 hw⟩
  · intro t ht hk c hc
    exact (liesIn_of_mem_scan hts ht (.inr hk)).1.isLetter_of_reserved hk hc
  · intro c hc hother
    obtain ⟨t, ht, hk, hmem⟩ := exists_word_of_mem hts hc (isWordChar_of_isOtherNumeral hother)
    refine ⟨t, ht, hk.resolve_right fun hreserved => ?_, hmem⟩
    have hl := (liesIn_of_mem_scan hts ht hk).1.isLetter_of_reserved hreserved hmem
    exact not_ordinary_of_isOtherNumeral hother (.inr (.inr (.inr hl)))
  · intro hletters c hc
    refine (scannable_iff.1 (hscans.1 ⟨ts, hts⟩ c hc)).resolve_right fun hother => ?_
    obtain ⟨t, ht, hk, hmem⟩ := exists_word_of_mem hts hc (isWordChar_of_isOtherNumeral hother)
    exact not_ordinary_of_isOtherNumeral hother (.inr (.inr (.inr (hletters t ht hk c hmem))))
  · intro hordinary t ht hk c hc
    refine (Bool.or_eq_true_iff.1 (isWordChar_of_mem_scan hts ht hk hc)).resolve_right fun hother => ?_
    obtain ⟨-, before, after, he, -⟩ := liesIn_of_mem_scan hts ht hk
    have hmem : c ∈ source.toList := he ▸ List.mem_append_left _ (List.mem_append_right _ hc)
    exact not_ordinary_of_isOtherNumeral hother (hordinary c hmem)

/-- A superscript alone is scanned as a word, though it is no ordinary character and no letter. -/
theorem scan_superscript :
    scan "²" = .ok [⟨.word, "²", 0⟩, Token.endOfLine 1] ∧ isLetter '²' = false ∧ ¬Ordinary '²' := by
  have hother : isOtherNumeral '²' = true := by decide
  have hword : ∀ c ∈ ['²'], isWordChar c = true := List.forall_mem_singleton.2 (isWordChar_of_isOtherNumeral hother)
  exact ⟨scan_eq_word (by decide) hword, isLetter_eq_false_of_isOtherNumeral hother, not_ordinary_of_isOtherNumeral hother⟩

/-- A superscript after a letter is part of a word of the line. -/
theorem scan_letters_superscript :
    scan "x²" = .ok [⟨.word, "x²", 0⟩, Token.endOfLine 2] ∧ isOtherNumeral '²' = true ∧
      ∃ t ∈ [⟨.word, "x²", 0⟩, Token.endOfLine 2], t.kind = .word ∧ '²' ∈ t.text.toList := by
  have hother : isOtherNumeral '²' = true := by decide
  have hword : ∀ c ∈ ['x', '²'], isWordChar c = true := by
    refine List.forall_mem_cons.2 ⟨by decide, ?_⟩
    exact List.forall_mem_singleton.2 (isWordChar_of_isOtherNumeral hother)
  have hscan : scan "x²" = .ok [⟨.word, "x²", 0⟩, Token.endOfLine 2] := scan_eq_word (by decide) hword
  exact ⟨hscan, hother, ((scan_letters "x²").2 _ hscan).2.2.1 '²' (by simp) hother⟩

end Reckoner
