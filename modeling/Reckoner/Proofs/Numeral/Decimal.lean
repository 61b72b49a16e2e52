import Mathlib
import Reckoner.Numeral
import Reckoner.Proofs.Scan.Classes

/-!
# Decimal literals: what a run of ASCII digits denotes

A scan puts nothing but ASCII digits into a number token. Such a text has no padding, no sign and no low lines, so it denotes
its decimal value if it is not too long for a numeral (`integer?_digits`), and it is a literal of a width exactly if it has at
most 4300 digits and its value lies below the bound of the width (`literal_digits_iff`). A number is written as the digits of
any run that denotes it, without the leading zeros (`toDigits_decimal`).
-/

namespace Reckoner

/-- The value of a run of ASCII digits. -/
def decimal (ds : List Char) : Nat := Nat.ofDigitChars 10 ds 0

/-- A run of digits is a literal of a width: it is not too long, and its value lies below the bound of the width. -/
def IsLiteral (w : Width) (ds : List Char) : Prop :=
  ds.length ≤ 4300 ∧ ∀ n, w = .bits n → decimal ds < 2 ^ (n - 1).toNat

/-- Nothing is stripped off a text without padding. -/
theorem stripPadding_eq_self {s : List Char} (h : ∀ c ∈ s, isPadding c = false) : stripPadding s = s := by
  have hdrop : ∀ {r : List Char}, (∀ c ∈ r, isPadding c = false) → r.dropWhile isPadding = r := by
    intro r hr
    cases r with
    | nil => rfl
    | cons c r => exact List.dropWhile_cons_of_neg (by simp [hr c List.mem_cons_self])
  rw [stripPadding, hdrop h, hdrop fun c hc => h c (List.mem_reverse.1 hc), List.reverse_reverse]

theorem isPadding_eq_false_of_isDigit {c : Char} (h : c.isDigit = true) : isPadding c = false := by
  rw [isPadding, (isDigit_excludes h).1, Bool.false_and]

/-- A text that begins with a digit has no sign. -/
theorem splitSign_of_isDigit {c : Char} {cs : List Char} (h : c.isDigit = true) :
    Numeral.splitSign (c :: cs) = (false, c :: cs) := by
  unfold Numeral.splitSign
  split
  · rename_i hcs
    obtain ⟨rfl, -⟩ := List.cons.inj hcs
    exact absurd h (by decide)
  · rename_i hcs
    obtain ⟨rfl, -⟩ := List.cons.inj hcs
    exact absurd h (by decide)
  · rfl

/-- After a digit, digits are read to the end. -/
theorem digits?_of_isDigit {ds : List Char} (h : ∀ c ∈ ds, c.isDigit = true) :
    Numeral.digits? true ds = some (ds.map fun c => c.toNat - '0'.toNat) := by
  induction ds with
  | nil => rfl
  | cons c ds ih =>
    obtain ⟨hc, hds⟩ := List.forall_mem_cons.1 h
    rw [Numeral.digits?, digitValue?_of_isDigit hc]
    simp only [ih hds, Option.map_some, List.map_cons]

/-- The digits of a text, taken as places of ten, come to its decimal value. -/
theorem positional_map (ds : List Char) : Numeral.positional (ds.map fun c => c.toNat - '0'.toNat) = decimal ds := by
  rw [Numeral.positional, decimal, Nat.ofDigitChars_eq_foldl, List.foldl_map]

/-- A run of ASCII digits denotes its decimal value, unless it is too long for a numeral. -/
theorem integer?_digits {ds : List Char} (hne : ds ≠ []) (h : ∀ c ∈ ds, c.isDigit = true) :
    Numeral.integer? ds = if ds.length ≤ Numeral.digitLimit then some (decimal ds : Int) else none := by
  obtain ⟨c, cs, rfl⟩ := List.exists_cons_of_ne_nil hne
  obtain ⟨hc, hcs⟩ := List.forall_mem_cons.1 h
  have hdigits : Numeral.digits? false (c :: cs) = some ((c :: cs).map fun c => c.toNat - '0'.toNat) := by
    rw [Numeral.digits?, digitValue?_of_isDigit hc]
    simp only [digits?_of_isDigit hcs, Option.map_some, List.map_cons]
  rw [Numeral.integer?, stripPadding_eq_self fun d hd => isPadding_eq_false_of_isDigit (h d hd), splitSign_of_isDigit hc]
  simp only [hdigits, positional_map, List.length_map, Numeral.signed, Bool.false_eq_true, if_false]

/-- An integer lies in the range of a width: of a word of `n` bits, from `-2^(n-1)` up to but not including `2^(n-1)`. -/
def InWidth (w : Width) (v : Int) : Prop := ∀ n, w = .bits n → -2 ^ (n - 1).toNat ≤ v ∧ v < 2 ^ (n - 1).toNat

/-- A width holds the integers in its range. -/
theorem holds_iff_inWidth {w : Width} {v : Int} : w.Holds v ↔ InWidth w v := by
  cases w with
  | unbounded => exact iff_of_true trivial nofun
  | bits n =>
    have hbound : (Width.bound n : Int) = 2 ^ (n - 1).toNat := by
      rw [Width.bound, Nat.one_shiftLeft]
      exact Nat.cast_pow 2 _
    simp only [InWidth, Width.bits.injEq, forall_eq', Width.Holds, hbound]

/-- A natural number lies in the range of a width exactly if it lies below the bound of the width. -/
theorem inWidth_natCast_iff {w : Width} {v : Nat} : InWidth w v ↔ ∀ n, w = .bits n → v < 2 ^ (n - 1).toNat := by
  refine forall_congr' fun n => imp_congr_right fun _ => ?_
  have hlow : -2 ^ (n - 1).toNat ≤ (v : Int) := by
    have hpos : (0 : Int) ≤ 2 ^ (n - 1).toNat := by positivity
    omega
  rw [and_iff_right hlow]
  exact_mod_cast Iff.rfl

/-- A text is a literal of a width that some integer fits exactly if it denotes an integer in the range of the width. -/
theorem literal_ok_iff {w : Width} (hw : w.Proper) {text : List Char} {v : Int} :
    literal w text = .ok v ↔ Numeral.integer? text = some v ∧ InWidth w v := by
  rw [← holds_iff_inWidth, literal]
  cases hi : Numeral.integer? text with
  | none => simp only [reduceCtorEq, false_and]
  | some u =>
    cases w with
    | unbounded => simp [Width.Holds]
    | bits n =>
      have hn : ¬n ≤ 0 := by
        simp only [Width.Proper] at hw
        omega
      simp only [if_neg hn, Option.some.injEq]
      by_cases hb : (Width.bits n).Holds u
      · rw [if_pos hb, Except.ok.injEq]
        exact ⟨fun hv => ⟨hv, hv ▸ hb⟩, fun hv => hv.1⟩
      · rw [if_neg hb]
        refine ⟨fun hv => ?_, fun hv => absurd (hv.1 ▸ hv.2) hb⟩
        cases hv

/-- A text that denotes an integer outside the range of the width is too wide. -/
theorem exists_tooWide {w : Width} (hw : w.Proper) {text : List Char} {v : Int} (hi : Numeral.integer? text = some v)
    (hv : ¬InWidth w v) : ∃ n, w = .bits n ∧ literal w text = .error (.tooWide n) := by
  cases w with
  | unbounded => exact absurd nofun hv
  | bits n =>
    have hn : ¬n ≤ 0 := by
      simp only [Width.Proper] at hw
      omega
    refine ⟨n, rfl, ?_⟩
    rw [literal, hi]
    simp only [if_neg hn]
    exact if_neg fun hb => hv (holds_iff_inWidth.1 hb)

/-- Which runs of ASCII digits are literals of a width that some integer fits, and what they denote. -/
theorem literal_digits_iff {w : Width} (hw : w.Proper) {ds : List Char} (hne : ds ≠ []) (h : ∀ c ∈ ds, c.isDigit = true)
    {v : Int} : literal w ds = .ok v ↔ IsLiteral w ds ∧ v = decimal ds := by
  rw [literal_ok_iff hw, integer?_digits hne h, IsLiteral, Numeral.digitLimit]
  by_cases hlen : ds.length ≤ 4300
  · rw [if_pos hlen, and_iff_right hlen, Option.some.injEq]
    constructor
    · rintro ⟨rfl, hv⟩
      exact ⟨inWidth_natCast_iff.1 hv, rfl⟩
    · rintro ⟨hv, rfl⟩
      exact ⟨rfl, inWidth_natCast_iff.2 hv⟩
  · rw [if_neg hlen]
    simp only [reduceCtorEq, false_and, hlen]

/-! ## Numbers as they are written -/

/-- A run of digits without its leading zeros; of a run of zeros one is kept. -/
def withoutLeadingZeros (ds : List Char) : List Char :=
  match ds.dropWhile (· == '0') with
  | [] => ['0']
  | d :: ds => d :: ds

/-- A digit is the character that its value is written with. -/
theorem digitChar_sub {c : Char} (h : c.isDigit = true) :
    c.toNat - '0'.toNat < 10 ∧ Nat.digitChar (c.toNat - '0'.toNat) = c := by
  obtain ⟨hlo, hhi⟩ := Char.isDigit_iff_toNat.1 h
  have hzero : '0'.toNat = 48 := rfl
  have hlo : 48 ≤ c.toNat := hlo
  have hhi : c.toNat ≤ 57 := hhi
  have hlt : c.toNat - '0'.toNat < 10 := by omega
  refine ⟨hlt, Char.toNat_inj.1 ?_⟩
  rw [Nat.toNat_digitChar_of_lt_ten hlt]
  omega

/-- A number that is not zero keeps its digits when further ones are appended. -/
theorem toDigits_ofDigitChars {ds : List Char} {n : Nat} (hn : 0 < n) (h : ∀ c ∈ ds, c.isDigit = true) :
    Nat.toDigits 10 (Nat.ofDigitChars 10 ds n) = Nat.toDigits 10 n ++ ds := by
  induction ds generalizing n with
  | nil => rw [Nat.ofDigitChars_nil, List.append_nil]
  | cons c ds ih =>
    obtain ⟨hc, hds⟩ := List.forall_mem_cons.1 h
    obtain ⟨hlt, hchar⟩ := digitChar_sub hc
    rw [Nat.ofDigitChars_cons, ih (by omega) hds, ← Nat.toDigits_append_toDigits (by decide) hn hlt,
      Nat.toDigits_of_lt_base hlt, hchar, List.append_assoc, List.singleton_append]

/-- The value of a run of digits is written as the run without its leading zeros. -/
theorem toDigits_decimal {ds : List Char} (h : ∀ c ∈ ds, c.isDigit = true) :
    Nat.toDigits 10 (decimal ds) = withoutLeadingZeros ds := by
  induction ds with
  | nil => rfl
  | cons c ds ih =>
    obtain ⟨hc, hds⟩ := List.forall_mem_cons.1 h
    obtain ⟨hlt, hchar⟩ := digitChar_sub hc
    rw [decimal, Nat.ofDigitChars_cons, Nat.mul_zero, Nat.zero_add]
    by_cases hzero : c = '0'
    · subst hzero
      exact ih hds
    · have hpos : 0 < c.toNat - '0'.toNat := by
        refine Nat.pos_of_ne_zero fun h0 => hzero ?_
        rw [← hchar, h0]
        rfl
      rw [toDigits_ofDigitChars hpos hds, Nat.toDigits_of_lt_base hlt, hchar, withoutLeadingZeros,
        List.dropWhile_cons_of_neg (by simpa using hzero), List.singleton_append]

/-- A run of digits does not get longer without its leading zeros. -/
theorem length_withoutLeadingZeros_le {ds : List Char} (hne : ds ≠ []) : (withoutLeadingZeros ds).length ≤ ds.length := by
  have hdrop := (List.dropWhile_sublist (l := ds) (· == '0')).length_le
  have hpos := List.length_pos_iff.2 hne
  rw [withoutLeadingZeros]
  split
  · exact hpos
  · rename_i hds
    rwa [hds] at hdrop

/-- A number is written with its digits, which are ASCII digits and denote it. -/
theorem decimal_toDigits (n : Nat) : decimal (Nat.toDigits 10 n) = n := Nat.ofDigitChars_ten_toDigits

theorem isDigit_of_mem_toDigits (n : Nat) : ∀ c ∈ Nat.toDigits 10 n, c.isDigit = true :=
  fun _ hc => Nat.isDigit_of_mem_toDigits (by decide) (by decide) hc

/-- An integer is written as the digits of its magnitude, after a minus sign if it is negative. -/
theorem toList_repr (n : Int) : n.repr.toList = (if n < 0 then ['-'] else []) ++ Nat.toDigits 10 n.natAbs := by
  cases n with
  | ofNat n =>
    rw [Int.ofNat_eq_natCast, if_neg (Int.not_lt.2 (Int.natCast_nonneg n)), Int.natAbs_natCast]
    exact Nat.toList_repr
  | negSucc n =>
    rw [if_pos (Int.negSucc_lt_zero n), Int.natAbs_negSucc, ← Nat.toList_repr]
    exact String.toList_append

/-- A number can be written out exactly if it has no more digits than the longest numeral. The proof holds for a limit of any
size, so its power of ten is not worked out. -/
theorem writable_natCast_iff {n : Nat} : Numeral.Writable n ↔ (Nat.toDigits 10 n).length ≤ Numeral.digitLimit := by
  have hpos : 0 < Numeral.digitLimit := by decide
  rw [Numeral.Writable, Int.natAbs_natCast]
  generalize Numeral.digitLimit = k at hpos
  exact (Nat.length_toDigits_le_iff (by decide) hpos).symm

end Reckoner
