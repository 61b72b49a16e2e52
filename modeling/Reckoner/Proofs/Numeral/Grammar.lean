import Reckoner.Proofs.Expr.Value
import Reckoner.Proofs.Numeral.Decimal
import Reckoner.Proofs.Reading.FirstError
import Reckoner.Proofs.Scan.Lexeme

/-!
# The grammar of numerals: which texts denote an integer

A numeral form spells out the text of an integer: padding, perhaps a sign, decimal digits of any script with single low lines
between them, padding. Its value is the positional value of its digits, with the sign. A text denotes an integer exactly if it
is the text of a form of at most 4300 digits, and it denotes the value of the form (`integer?_eq_some_iff`). A literal of a
width is a text that denotes an integer in the range of the width; what is written for an integer is such a text
(`literal_exact`).
-/

namespace Reckoner

/-! ## Forms -/

/-- Decimal digits of any script, and their values. A single low line may stand between two of them. -/
inductive IsDigits : List Char → List Nat → Prop where
  | single {c : Char} {d : Nat} (hc : digitValue? c = some d) : IsDigits [c] [d]
  | next {c : Char} {d : Nat} {cs : List Char} {ds : List Nat} (hc : digitValue? c = some d) (hcs : IsDigits cs ds) :
    IsDigits (c :: cs) (d :: ds)
  | lowLine {c : Char} {d : Nat} {cs : List Char} {ds : List Nat} (hc : digitValue? c = some d) (hcs : IsDigits cs ds) :
    IsDigits (c :: '_' :: cs) (d :: ds)

/-- How the sign of a numeral is written, if it has one. -/
def signChars : Option Sign → List Char
  | none => []
  | some .plus => ['+']
  | some .minus => ['-']

/-- The text of an integer, part by part. -/
structure NumeralForm where
  lead : List Char
  sign : Option Sign
  body : List Char
  digits : List Nat
  trail : List Char
  padded : ∀ c ∈ lead ++ trail, isPadding c = true
  isDigits : IsDigits body digits

namespace NumeralForm

/-- The characters of a form. -/
def text (f : NumeralForm) : List Char := f.lead ++ (signChars f.sign ++ f.body) ++ f.trail

/-- The integer of a form: the sum of its digits times the powers of ten that go with their places, with its sign. -/
def value (f : NumeralForm) : Int := f.sign.elim 1 Sign.weight * (Nat.ofDigits 10 f.digits.reverse : Nat)

end NumeralForm

/-! ## Digits -/

section

variable {c : Char} {d : Nat} {cs : List Char} {ds : List Nat}

/-- What may follow a digit: nothing, further digits, or a low line and further digits. -/
def FollowsDigit (cs : List Char) (ds : List Nat) : Prop :=
  cs = [] ∧ ds = [] ∨ IsDigits cs ds ∨ ∃ rest, cs = '_' :: rest ∧ IsDigits rest ds

theorem IsDigits.cons (hc : digitValue? c = some d) (h : FollowsDigit cs ds) : IsDigits (c :: cs) (d :: ds) := by
  rcases h with ⟨rfl, rfl⟩ | hcs | ⟨rest, rfl, hrest⟩
  · exact .single hc
  · exact .next hc hcs
  · exact .lowLine hc hrest

/-- Digits that are read are digits. The flag of the reading says whether a digit stands before them. -/
theorem isDigits_of_digits? (cs : List Char) :
    (∀ ds, Numeral.digits? false cs = some ds → IsDigits cs ds) ∧
      ∀ ds, Numeral.digits? true cs = some ds → FollowsDigit cs ds := by
  induction cs with
  | nil =>
    refine ⟨fun ds h => by simp [Numeral.digits?] at h, fun ds h => .inl ⟨rfl, ?_⟩⟩
    simpa [Numeral.digits?] using h.symm
  | cons c cs ih =>
    cases hc : digitValue? c with
    | some d =>
      have hcons : ∀ flag ds, Numeral.digits? flag (c :: cs) = some ds → IsDigits (c :: cs) ds := by
        intro flag ds h
        simp only [Numeral.digits?, hc, Option.map_eq_some_iff] at h
        obtain ⟨ds, hds, rfl⟩ := h
        exact .cons hc (ih.2 ds hds)
      exact ⟨hcons false, fun ds h => .inr (.inl (hcons true ds h))⟩
    | none =>
      refine ⟨fun ds h => by simp [Numeral.digits?, hc] at h, fun ds h => ?_⟩
      simp only [Numeral.digits?, hc, Bool.true_and, decide_eq_true_eq] at h
      by_cases hlow : c = '_'
      · rw [if_pos hlow] at h
        subst hlow
        exact .inr (.inr ⟨cs, rfl, ih.1 ds h⟩)
      · rw [if_neg hlow] at h
        cases h

/-- Digits are read, after a digit and at the front. -/
theorem digits?_of_isDigits (h : IsDigits cs ds) (flag : Bool) : Numeral.digits? flag cs = some ds := by
  have hlow : digitValue? '_' = none := by decide +kernel
  induction h generalizing flag with
  | single hc => simp [Numeral.digits?, hc]
  | next hc _ ih => simp [Numeral.digits?, hc, ih]
  | lowLine hc _ ih => simp [Numeral.digits?, hc, hlow, ih]

theorem IsDigits.ne_nil (h : IsDigits cs ds) : cs ≠ [] := by
  cases h <;> exact List.cons_ne_nil _ _

/-- The first character of digits is a digit. -/
theorem IsDigits.head (h : IsDigits cs ds) : ∀ c ∈ cs.head?, (digitValue? c).isSome = true := by
  cases h <;> simp_all

/-- The last character of digits is a digit. -/
theorem IsDigits.last (h : IsDigits cs ds) : ∀ c ∈ cs.getLast?, (digitValue? c).isSome = true := by
  induction h with
  | single hc => simp [hc]
  | next hc hcs ih =>
    rw [List.getLast?_cons_of_ne_nil hcs.ne_nil]
    exact ih
  | lowLine hc hcs ih =>
    rw [List.getLast?_cons_of_ne_nil (List.cons_ne_nil _ _), List.getLast?_cons_of_ne_nil hcs.ne_nil]
    exact ih

/-- The fold over digits gives their positional value. -/
theorem positional_eq_ofDigits (ds : List Nat) : Numeral.positional ds = Nat.ofDigits 10 ds.reverse := by
  induction ds using List.reverseRecOn with
  | nil => rfl
  | append_singleton ds d ih =>
    have hfold : Numeral.positional (ds ++ [d]) = 10 * Numeral.positional ds + d := by
      unfold Numeral.positional
      rw [List.foldl_append]
      rfl
    rw [hfold, ih, List.reverse_concat, Nat.ofDigits_cons]
    simp [Nat.add_comm]

end

/-! ## Padding -/

section

variable {c : Char} {lead core trail cs : List Char}

/-- No digit of any script is padding. -/
theorem isPadding_eq_false_of_digit (h : (digitValue? c).isSome = true) : isPadding c = false := by
  have hapart : ∀ z ∈ digitZeros, ∀ r ∈ blanks, r.2 < z ∨ z + 9 < r.1 := by decide +kernel
  obtain ⟨d, hd⟩ := Option.isSome_iff_exists.1 h
  obtain ⟨z, hz, -⟩ := Option.map_eq_some_iff.1 hd
  have hmem := List.mem_of_find?_eq_some hz
  have hrange := List.find?_some hz
  simp only [Bool.and_eq_true, decide_eq_true_eq] at hrange
  rw [Bool.eq_false_iff]
  intro hpad
  obtain ⟨r, hr, hlo, hhi⟩ := CodeRanges.has_iff.1 (isBlank_of_isPadding hpad)
  rcases hapart z hmem r hr with h | h <;> omega

/-- Padding is taken off both ends of a text that neither begins nor ends with it. -/
theorem stripPadding_append (hpad : ∀ c ∈ lead ++ trail, isPadding c = true) (hne : core ≠ [])
    (hhead : ∀ c ∈ core.head?, isPadding c = false) (hlast : ∀ c ∈ core.getLast?, isPadding c = false) :
    stripPadding (lead ++ core ++ trail) = core := by
  have hfront : (lead ++ core ++ trail).dropWhile isPadding = core ++ trail := by
    rw [List.append_assoc]
    refine dropWhile_run (fun c hc => hpad c (List.mem_append_left _ hc)) ?_
    intro c hc
    rw [List.head?_append_of_ne_nil _ hne] at hc
    exact hhead c hc
  have hback : (core ++ trail).reverse.dropWhile isPadding = core.reverse := by
    rw [List.reverse_append]
    refine dropWhile_run (fun c hc => hpad c (List.mem_append_right _ (List.mem_reverse.1 hc))) ?_
    intro c hc
    rw [List.head?_reverse] at hc
    exact hlast c hc
  rw [stripPadding, hfront, hback, List.reverse_reverse]

/-- Nothing but padding is taken off a text. -/
theorem exists_padding (cs : List Char) :
    ∃ lead trail, cs = lead ++ stripPadding cs ++ trail ∧ ∀ c ∈ lead ++ trail, isPadding c = true := by
  have htaken : ∀ ds : List Char, ∀ c ∈ ds.takeWhile isPadding, isPadding c = true :=
    fun ds => List.all_eq_true.1 List.all_takeWhile
  refine ⟨cs.takeWhile isPadding, ((cs.dropWhile isPadding).reverse.takeWhile isPadding).reverse, ?_, ?_⟩
  · rw [stripPadding, List.append_assoc, ← List.reverse_append, List.takeWhile_append_dropWhile, List.reverse_reverse,
      List.takeWhile_append_dropWhile]
  · intro c hc
    rcases List.mem_append.1 hc with hc | hc
    · exact htaken _ c hc
    · exact htaken _ c (List.mem_reverse.1 hc)

end

/-! ## Texts and forms -/

section

variable {text body cs : List Char} {ds : List Nat} {v : Int} {negative : Bool} {sign : Option Sign} {w : Width} {t : Token}

/-- A sign and what comes after it, if no sign comes after it. -/
theorem splitSign_signChars (sign : Option Sign) (h : IsDigits body ds) :
    Numeral.splitSign (signChars sign ++ body) = (decide (sign = some .minus), body) := by
  rcases sign with _ | _ | _
  · obtain ⟨c, cs, rfl⟩ := List.exists_cons_of_ne_nil h.ne_nil
    have hdigit := h.head c rfl
    have hplus : c ≠ '+' := by
      rintro rfl
      exact absurd hdigit (by decide +kernel)
    have hminus : c ≠ '-' := by
      rintro rfl
      exact absurd hdigit (by decide +kernel)
    simp [signChars, Numeral.splitSign, hplus, hminus]
  · rfl
  · rfl

/-- The sign that is split off a text stands at its front. -/
theorem exists_signChars (h : Numeral.splitSign cs = (negative, body)) :
    ∃ sign, cs = signChars sign ++ body ∧ negative = decide (sign = some .minus) := by
  unfold Numeral.splitSign at h
  split at h
  · obtain ⟨rfl, rfl⟩ := Prod.mk.inj h
    exact ⟨some .plus, rfl, rfl⟩
  · obtain ⟨rfl, rfl⟩ := Prod.mk.inj h
    exact ⟨some .minus, rfl, rfl⟩
  · obtain ⟨rfl, rfl⟩ := Prod.mk.inj h
    exact ⟨none, rfl, rfl⟩

/-- The integer of a numeral is the sum of its digits times the powers of ten, with its sign. -/
theorem signed_positional (sign : Option Sign) (ds : List Nat) :
    Numeral.signed (decide (sign = some .minus)) (Numeral.positional ds) =
      sign.elim 1 Sign.weight * (Nat.ofDigits 10 ds.reverse : Nat) := by
  rw [positional_eq_ofDigits]
  rcases sign with _ | _ | _ <;> simp [Numeral.signed, Sign.weight]

/-- A text whose padding is taken off and whose sign is split off is the text of a form if digits are left. -/
theorem exists_form (hsplit : Numeral.splitSign (stripPadding text) = (negative, body)) (hdigits : IsDigits body ds) :
    ∃ f : NumeralForm, f.text = text ∧ f.digits = ds ∧ f.value = Numeral.signed negative (Numeral.positional ds) := by
  obtain ⟨lead, trail, htext, hpad⟩ := exists_padding text
  obtain ⟨sign, hcore, rfl⟩ := exists_signChars hsplit
  refine ⟨⟨lead, sign, body, ds, trail, hpad, hdigits⟩, ?_, rfl, (signed_positional sign ds).symm⟩
  rw [htext, hcore]
  rfl

/-- No sign is padding. -/
theorem isPadding_eq_false_of_sign {c : Char} (h : c ∈ signChars sign) : isPadding c = false := by
  rcases sign with _ | _ | _
  · cases h
  · obtain rfl := List.mem_singleton.1 h
    decide +kernel
  · obtain rfl := List.mem_singleton.1 h
    decide +kernel

/-- The text of a form without its padding. -/
theorem stripPadding_text (f : NumeralForm) : stripPadding f.text = signChars f.sign ++ f.body := by
  refine stripPadding_append f.padded (List.append_ne_nil_of_right_ne_nil _ f.isDigits.ne_nil) ?_ ?_
  · intro c hc
    rw [List.head?_append, Option.mem_def, Option.or_eq_some_iff] at hc
    rcases hc with hc | ⟨-, hc⟩
    · exact isPadding_eq_false_of_sign (List.mem_of_mem_head? hc)
    · exact isPadding_eq_false_of_digit (f.isDigits.head c hc)
  · intro c hc
    rw [List.getLast?_append_of_ne_nil _ f.isDigits.ne_nil] at hc
    exact isPadding_eq_false_of_digit (f.isDigits.last c hc)

/-- A text denotes an integer exactly if it is the text of a form that is not too long, and it denotes the value of the form. -/
theorem integer?_eq_some_iff :
    Numeral.integer? text = some v ↔ ∃ f : NumeralForm, f.text = text ∧ f.digits.length ≤ 4300 ∧ v = f.value := by
  constructor
  · intro h
    unfold Numeral.integer? at h
    rcases hsplit : Numeral.splitSign (stripPadding text) with ⟨negative, body⟩
    simp only [hsplit] at h
    cases hds : Numeral.digits? false body with
    | none =>
      rw [hds] at h
      cases h
    | some ds =>
      simp only [hds] at h
      by_cases hlen : ds.length ≤ Numeral.digitLimit
      · rw [if_pos hlen, Option.some.injEq] at h
        obtain ⟨f, htext, rfl, hvalue⟩ := exists_form hsplit ((isDigits_of_digits? body).1 ds hds)
        exact ⟨f, htext, hlen, by rw [hvalue, h]⟩
      · rw [if_neg hlen] at h
        cases h
  · rintro ⟨f, rfl, hlen, rfl⟩
    unfold Numeral.integer?
    simp only [stripPadding_text, splitSign_signChars f.sign f.isDigits, digits?_of_isDigits f.isDigits]
    rw [Numeral.digitLimit, if_pos hlen, signed_positional]
    rfl

/-! ## Integers as they are written -/

/-- ASCII digits are digits. -/
theorem isDigits_of_isDigit (hne : cs ≠ []) (h : ∀ c ∈ cs, c.isDigit = true) :
    IsDigits cs (cs.map fun c => c.toNat - '0'.toNat) := by
  obtain ⟨c, cs, rfl⟩ := List.exists_cons_of_ne_nil hne
  obtain ⟨hc, hcs⟩ := List.forall_mem_cons.1 h
  exact .cons (digitValue?_of_isDigit hc) ((isDigits_of_digits? cs).2 _ (digits?_of_isDigit hcs))

/-- What is written for an integer denotes it, if it can be written out. -/
theorem integer?_repr {n : Int} (hn : Numeral.Writable n) : Numeral.integer? n.repr.toList = some n := by
  have hlen : (Nat.toDigits 10 n.natAbs).length ≤ 4300 := by
    have habs : Numeral.Writable (n.natAbs : Int) := hn
    exact writable_natCast_iff.1 habs
  have hdigits := isDigits_of_isDigit Nat.toDigits_ne_nil (isDigit_of_mem_toDigits n.natAbs)
  have hvalue : Nat.ofDigits 10 ((Nat.toDigits 10 n.natAbs).map fun c => c.toNat - '0'.toNat).reverse = n.natAbs := by
    rw [← positional_eq_ofDigits, positional_map, decimal_toDigits]
  refine integer?_eq_some_iff.2 ⟨⟨[], if n < 0 then some .minus else none, _, _, [], nofun, hdigits⟩, ?_, ?_, ?_⟩
  · rw [toList_repr]
    by_cases hneg : n < 0
    · simp [NumeralForm.text, signChars, hneg]
    · simp [NumeralForm.text, signChars, hneg]
  · simpa using hlen
  · unfold NumeralForm.value
    simp only [hvalue]
    by_cases hneg : n < 0
    · simp only [if_pos hneg, Option.elim_some, Sign.weight]
      omega
    · simp only [if_neg hneg, Option.elim_none]
      omega

end

/-- A token is a literal of a width exactly if its text is that of an integer of at most 4300 digits which lies in the range of
the width; the literal is that integer. Any other token is refused for its number format. What is written for an integer that
can be written out is a literal of the widths that have the integer in their range, and of no others. -/
theorem literal_exact {w : Width} (hw : w.Proper) (t : Token) :
    (∀ v, t.literal w = .ok v ↔
        (∃ f : NumeralForm, f.text = t.text.toList ∧ f.digits.length ≤ 4300 ∧ v = f.value) ∧ InWidth w v) ∧
      ((∀ v, t.literal w ≠ .ok v) → ∃ e : SyntaxError, t.literal w = .error (.refused e) ∧ e.category = "number-format" ∧
        e.token = t ∧ e.diagnostic.position = some t.position) ∧
      ∀ n : Int, Numeral.Writable n → t.text = n.repr → ∀ v, t.literal w = .ok v ↔ v = n ∧ InWidth w n := by
  refine ⟨fun v => ?_, fun hnone => ?_, fun n hn htext v => ?_⟩
  · rw [literal_eq_ok_iff, literal_ok_iff hw, integer?_eq_some_iff]
  · obtain ⟨c, hlit, hc⟩ := exists_refused_of_literal hw hnone
    exact ⟨⟨c, t⟩, hlit, category_eq_format_iff.2 hc, rfl, rfl⟩
  · rw [literal_eq_ok_iff, literal_ok_iff hw, htext, integer?_repr hn, Option.some.injEq]
    constructor
    · rintro ⟨rfl, hv⟩
      exact ⟨rfl, hv⟩
    · rintro ⟨rfl, hv⟩
      exact ⟨rfl, hv⟩

/-- Padding, a sign and a low line, with digits of two scripts; two low lines; and the ends of a range. -/
theorem literal_exact_mixed :
    (Width.bits 8).Proper ∧
      Token.literal (.bits 8) ⟨.number, "\u3000-1_\u0662\t", 5⟩ = .ok (-12) ∧
      (∃ e : SyntaxError, Token.literal (.bits 8) ⟨.number, "1__2", 5⟩ = .error (.refused e) ∧ e.category = "number-format" ∧
        e.token = ⟨.number, "1__2", 5⟩ ∧ e.diagnostic.position = some 5) ∧
      Token.literal (.bits 8) ⟨.number, "-128", 5⟩ = .ok (-128) ∧
      ∀ v, Token.literal (.bits 8) ⟨.number, "128", 5⟩ ≠ .ok v := by
  have hw : (Width.bits 8).Proper := by decide
  have hrange : ∀ v : Int, -128 ≤ v → v < 128 → InWidth (.bits 8) v := by
    rintro v hlow hhigh n ⟨⟩
    exact ⟨hlow, hhigh⟩
  have hpad : ∀ c ∈ ['\u3000'] ++ ['\t'], isPadding c = true := List.all_eq_true.1 (by decide +kernel)
  refine ⟨hw, ?_, ?_, ?_, ?_⟩
  · refine ((literal_exact hw ⟨.number, "\u3000-1_\u0662\t", 5⟩).1 (-12)).2 ⟨?_, hrange _ (by decide) (by decide)⟩
    exact ⟨⟨['\u3000'], some .minus, ['1', '_', '\u0662'], [1, 2], ['\t'], hpad, .lowLine rfl (.single rfl)⟩,
      by simp [NumeralForm.text, signChars], by simp, by simp [NumeralForm.value, Sign.weight, Nat.ofDigits_cons]⟩
  · have hnone : Token.literal (.bits 8) ⟨.number, "1__2", 5⟩ = .error (.refused ⟨.malformed, ⟨.number, "1__2", 5⟩⟩) := by rfl
    refine (literal_exact hw ⟨.number, "1__2", 5⟩).2.1 ?_
    intro v hv
    rw [hnone] at hv
    cases hv
  · exact ((literal_exact hw ⟨.number, "-128", 5⟩).2.2 (-128) (by decide +kernel) (by decide +kernel) _).2
      ⟨rfl, hrange _ (by decide) (by decide)⟩
  · intro v hv
    have hfits := ((literal_exact hw ⟨.number, "128", 5⟩).2.2 128 (by decide +kernel) (by decide +kernel) v).1 hv
    exact absurd (hfits.2 8 rfl).2 (by decide)

end Reckoner
