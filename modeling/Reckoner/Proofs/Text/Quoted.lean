import Mathlib
import Reckoner.Text.Quoted

/-!
# Quoted text read back

A quoted text says where it ends and what it quotes: `Quoted.decode` reads it from the front of any text and gives the text quoted
and what follows (`Quoted.decode_encode_append`). The mark at its front tells the mark at its end, as no escape begins with that
mark; and an escape says by its letter how many digits it has. So no two texts are quoted alike (`quoted_append_inj`), though a
text may hold both marks, backslashes, or what looks like an escape. All of a quoted text is printable, and no line ends in it
(`isPrintable_of_mem_quoted`, `lineBreaks_has_eq_false`).
-/

namespace Reckoner

namespace Quoted

/-! ## Reading escapes -/

/-- The value of a digit in lower-case hexadecimal. -/
def hexValue (d : Char) : Nat := if d.isDigit then d.toNat - '0'.toNat else 10 + (d.toNat - 'a'.toNat)

/-- The number that digits in lower-case hexadecimal denote. -/
def codePoint (ds : List Char) : Nat := ds.foldl (fun n d => 16 * n + hexValue d) 0

/-- How many digits follow the letter of an escape, if it is a letter that digits follow. -/
def codeWidth? : Char → Option Nat
  | 'x' => some 2
  | 'u' => some 4
  | 'U' => some 8
  | _ => none

/-- The character that a backslash and a letter stand for; any other character after a backslash stands for itself. -/
def named : Char → Char
  | 't' => '\t'
  | 'n' => '\n'
  | 'r' => '\r'
  | c => c

/-- The first character of the text `c :: cs`, which may be written as an escape, and how much of `cs` belongs to the escape. -/
def unescape (c : Char) (cs : List Char) : Char × Nat :=
  if c = '\\' then
    match cs with
    | [] => (c, 0)
    | d :: ds =>
      match codeWidth? d with
      | some width => (Char.ofNat (codePoint (ds.take width)), 1 + width)
      | none => (named d, 1)
  else (c, 0)

/-- The text that is written before the first mark `q` outside an escape, and what stands after that mark. -/
def decodeBody (q : Char) : List Char → Option (List Char × List Char)
  | [] => none
  | c :: cs =>
    if c = q then some ([], cs)
    else (decodeBody q (cs.drop (unescape c cs).2)).map fun (s, rest) => ((unescape c cs).1 :: s, rest)
termination_by cs => cs.length
decreasing_by exact Nat.lt_succ_of_le (List.drop_sublist _ _).length_le

/-- The text that a quoted text at the front of a text quotes, and what stands after the quoted text. -/
def decode : List Char → Option (List Char × List Char)
  | [] => none
  | q :: cs => decodeBody q cs

/-! ## Escapes are read back -/

theorem length_hexadecimal (width n : Nat) : (hexadecimal width n).length = width := by
  induction width generalizing n with
  | zero => rfl
  | succ width ih => rw [hexadecimal, List.length_append, ih, List.length_singleton]

/-- The digits of a number denote it if there are enough of them. -/
theorem codePoint_hexadecimal {width n : Nat} (h : n < 16 ^ width) : codePoint (hexadecimal width n) = n := by
  have hvalue : ∀ d < 16, hexValue d.digitChar = d := by decide
  induction width generalizing n with
  | zero => exact (Nat.lt_one_iff.1 h).symm
  | succ width ih =>
    have hdiv : codePoint (hexadecimal width (n / 16)) = n / 16 := ih (Nat.div_lt_of_lt_mul (by rwa [Nat.pow_succ'] at h))
    rw [codePoint] at hdiv
    rw [hexadecimal, codePoint, List.foldl_append, hdiv, List.foldl_cons, List.foldl_nil,
      hvalue (n % 16) (Nat.mod_lt n (by decide))]
    exact Nat.div_add_mod n 16

/-- The mark of a text is one of two. -/
theorem mark_cases (s : List Char) : mark s = apostrophe ∨ mark s = doubleQuote := by
  unfold mark
  split
  · exact .inr rfl
  · exact .inl rfl

/-- What a character is escaped as does not begin with the mark, and is read back as the character, whatever follows. -/
theorem exists_of_escape {q : Char} (hq : q = apostrophe ∨ q = doubleQuote) (c : Char) (rest : List Char) :
    ∃ d ds, escape q c ++ rest = d :: ds ∧ d ≠ q ∧ (unescape d ds).1 = c ∧ ds.drop (unescape d ds).2 = rest := by
  have hbackslash : '\\' ≠ q := by rcases hq with rfl | rfl <;> decide
  have hnamed : ∀ d, codeWidth? d = none → named d = c → ∃ e es, ['\\', d] ++ rest = e :: es ∧ e ≠ q ∧
      (unescape e es).1 = c ∧ es.drop (unescape e es).2 = rest := by
    intro d hd hc
    exact ⟨'\\', d :: rest, rfl, hbackslash, by simp [unescape, hd, hc], by simp [unescape, hd]⟩
  have hcode : ∀ d width, codeWidth? d = some width → c.toNat < 16 ^ width →
      ∃ e es, '\\' :: d :: hexadecimal width c.toNat ++ rest = e :: es ∧ e ≠ q ∧
        (unescape e es).1 = c ∧ es.drop (unescape e es).2 = rest := by
    intro d width hd hc
    have hlength := length_hexadecimal width c.toNat
    refine ⟨'\\', d :: (hexadecimal width c.toNat ++ rest), rfl, hbackslash, ?_, ?_⟩
    · simp [unescape, hd, List.take_left' hlength, codePoint_hexadecimal hc, Char.ofNat_toNat]
    · simp [unescape, hd, Nat.add_comm 1, List.drop_left' hlength]
  unfold escape
  split_ifs with hmark htab hfeed hreturn hprintable hbyte hword
  · rcases hmark with rfl | rfl
    · rcases hq with rfl | rfl <;> exact hnamed _ rfl rfl
    · exact hnamed _ rfl rfl
  · exact hnamed 't' rfl htab.symm
  · exact hnamed 'n' rfl hfeed.symm
  · exact hnamed 'r' rfl hreturn.symm
  · obtain ⟨hq, hc⟩ := not_or.1 hmark
    exact ⟨c, rest, rfl, hq, by simp [unescape, hc], by simp [unescape, hc]⟩
  · exact hcode 'x' 2 rfl hbyte
  · exact hcode 'u' 4 rfl hword
  · exact hcode 'U' 8 rfl (Nat.lt_of_lt_of_le c.val.toNat_lt (by decide))

/-- A text is read back from its escapes, up to the mark after them. -/
theorem decodeBody_flatMap_escape {q : Char} (hq : q = apostrophe ∨ q = doubleQuote) (s rest : List Char) :
    decodeBody q (s.flatMap (escape q) ++ q :: rest) = some (s, rest) := by
  induction s with
  | nil => rw [List.flatMap_nil, List.nil_append, decodeBody, if_pos rfl]
  | cons c s ih =>
    obtain ⟨d, ds, hds, hne, hc, hrest⟩ := exists_of_escape hq c (s.flatMap (escape q) ++ q :: rest)
    rw [List.flatMap_cons, List.append_assoc, hds, decodeBody, if_neg hne, hrest, ih, hc]
    rfl

/-- A quoted text is read back, whatever follows it. -/
theorem decode_encode_append (s rest : List Char) : decode (encode s ++ rest) = some (s, rest) := by
  rw [encode, List.append_assoc, List.cons_append]
  exact decodeBody_flatMap_escape (mark_cases s) s rest

/-! ## Printable throughout -/

theorem isPrintable_of_mem_hexadecimal {width n : Nat} : ∀ c ∈ hexadecimal width n, isPrintable c = true := by
  have hascii : ∀ d < 16, 0x20 ≤ d.digitChar.toNat ∧ d.digitChar.toNat ≤ 0x7E := by decide
  intro c hc
  induction width generalizing n with
  | zero => cases hc
  | succ width ih =>
    rcases List.mem_append.1 hc with hc | hc
    · exact ih hc
    · obtain ⟨hlo, hhi⟩ := hascii (n % 16) (Nat.mod_lt n (by decide))
      rw [List.mem_singleton.1 hc]
      exact isPrintable_of_ascii hlo hhi

/-- An escape is printable, also where it stands for a character that is not. -/
theorem isPrintable_of_mem_escape {q : Char} (hq : isPrintable q = true) (c : Char) :
    ∀ d ∈ escape q c, isPrintable d = true := by
  have hbackslash : isPrintable '\\' = true := isPrintable_of_ascii (by decide) (by decide)
  have hletter : ∀ {e es}, isPrintable e = true → (∀ d ∈ es, isPrintable d = true) →
      ∀ d ∈ '\\' :: e :: es, isPrintable d = true :=
    fun he hes => List.forall_mem_cons.2 ⟨hbackslash, List.forall_mem_cons.2 ⟨he, hes⟩⟩
  have hnil : ∀ d ∈ [], isPrintable d = true := fun _ hd => absurd hd List.not_mem_nil
  unfold escape
  split_ifs with hmark htab hfeed hreturn hprintable hbyte hword
  · refine hletter ?_ hnil
    rcases hmark with rfl | rfl
    · exact hq
    · exact hbackslash
  · exact hletter (isPrintable_of_ascii (by decide) (by decide)) hnil
  · exact hletter (isPrintable_of_ascii (by decide) (by decide)) hnil
  · exact hletter (isPrintable_of_ascii (by decide) (by decide)) hnil
  · exact List.forall_mem_singleton.2 hprintable
  · exact hletter (isPrintable_of_ascii (by decide) (by decide)) isPrintable_of_mem_hexadecimal
  · exact hletter (isPrintable_of_ascii (by decide) (by decide)) isPrintable_of_mem_hexadecimal
  · exact hletter (isPrintable_of_ascii (by decide) (by decide)) isPrintable_of_mem_hexadecimal

end Quoted

/-- A quoted text is printable throughout, whatever it quotes. -/
theorem isPrintable_of_mem_quoted (s : String) : ∀ c ∈ (quoted s).toList, isPrintable c = true := by
  have hmark : isPrintable (Quoted.mark s.toList) = true := by
    rcases Quoted.mark_cases s.toList with h | h <;> rw [h] <;> exact isPrintable_of_ascii (by decide) (by decide)
  rw [quoted, String.toList_ofList, Quoted.encode]
  intro c hc
  rw [List.mem_append, List.mem_cons, List.mem_flatMap, List.mem_singleton] at hc
  rcases hc with (rfl | ⟨d, -, hc⟩) | rfl
  · exact hmark
  · exact Quoted.isPrintable_of_mem_escape hmark d c hc
  · exact hmark

/-- No two texts are quoted alike, whatever stands after them. -/
theorem quoted_append_inj {s s' rest rest' : String} (h : quoted s ++ rest = quoted s' ++ rest') : s = s' ∧ rest = rest' := by
  have hlist : Quoted.encode s.toList ++ rest.toList = Quoted.encode s'.toList ++ rest'.toList := by
    have := congrArg String.toList h
    rwa [String.toList_append, String.toList_append, quoted, quoted, String.toList_ofList, String.toList_ofList] at this
  have hread := congrArg Quoted.decode hlist
  rw [Quoted.decode_encode_append, Quoted.decode_encode_append, Option.some.injEq, Prod.mk.injEq] at hread
  exact ⟨String.toList_inj.1 hread.1, String.toList_inj.1 hread.2⟩

/-! ## Line breaks -/

/-- All characters that end a line in some text: the line feed and the three after it, the information separators but the last,
the next line, and the separators of lines and of paragraphs. -/
def lineBreaks : CodeRanges := [(0xA, 0xD), (0x1C, 0x1E), (0x85, 0x85), (0x2028, 0x2029)]

/-- What is printable ends no line. -/
theorem lineBreaks_has_eq_false {c : Char} (h : isPrintable c = true) : lineBreaks.has c = false := by
  have hwithin : ∀ r ∈ lineBreaks, ∃ u ∈ unprintables, u.1 ≤ r.1 ∧ r.2 ≤ u.2 := by decide +kernel
  rw [isPrintable, Bool.not_eq_true', Bool.eq_false_iff, ne_eq, CodeRanges.has_iff] at h
  rw [Bool.eq_false_iff, ne_eq, CodeRanges.has_iff]
  rintro ⟨r, hr, hlo, hhi⟩
  obtain ⟨u, hu, hbelow, habove⟩ := hwithin r hr
  exact h ⟨u, hu, hbelow.trans hlo, hhi.trans habove⟩

end Reckoner
