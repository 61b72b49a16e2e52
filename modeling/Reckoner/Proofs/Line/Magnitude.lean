import Reckoner.Proofs.Expr.Value
import Reckoner.Proofs.Line.Rendering

/-!
# Magnitudes: a value has no more digits than its line

A product has at most as many digits as its factors together, and so has a sum or difference of products, since two powers of
ten from ten on add up to no more than their product. So the value of an expression has no more digits than its integers
together (`Expr.natAbs_value_lt`), and those are written in its line with at least as many (`digitCount_le_of_parse`).
-/

namespace Reckoner

/-- How many digits an integer is written with. -/
def digitCount (n : Int) : Nat := (Nat.toDigits 10 n.natAbs).length

/-- How many digits the factors of a term are written with together. -/
def Term.digitCount (t : Term) : Nat := (t.factors.map Reckoner.digitCount).sum

/-- How many digits the integers of an expression are written with together. -/
def Expr.digitCount (e : Expr) : Nat := (e.leaves.map Reckoner.digitCount).sum

/-- How many characters of a line are digits. -/
def lineDigits (source : String) : Nat := source.toList.countP Char.isDigit

/-! ## Products -/

section

variable {n : Int} {t : Term}

theorem digitCount_pos (n : Int) : 0 < digitCount n := List.length_pos_iff.2 Nat.toDigits_ne_nil

/-- An integer lies below the power of ten that its digits count out. -/
theorem natAbs_lt_pow_digitCount (n : Int) : n.natAbs < 10 ^ digitCount n :=
  (Nat.length_toDigits_le_iff (by decide) (digitCount_pos n)).1 (Nat.le_refl _)

/-- A product of integers lies below the power of ten that their digits together count out. -/
theorem natAbs_prod_lt (n : Int) (ns : List Int) : (n :: ns).prod.natAbs < 10 ^ ((n :: ns).map digitCount).sum := by
  induction ns generalizing n with
  | nil => simpa using natAbs_lt_pow_digitCount n
  | cons m ns ih =>
    rw [List.prod_cons, Int.natAbs_mul, List.map_cons, List.sum_cons, pow_add]
    exact Nat.mul_lt_mul'' (natAbs_lt_pow_digitCount n) (ih m)

/-- A product has no more digits than its factors together. -/
theorem Term.natAbs_value_lt (t : Term) : t.value.natAbs < 10 ^ t.digitCount := by
  rw [value_eq_prod]
  exact natAbs_prod_lt t.head t.tail

/-- A product of factors that are not negative is not negative. -/
theorem Term.value_nonneg (h : ∀ n ∈ t.factors, 0 ≤ n) : 0 ≤ t.value := by
  rw [value_eq_prod]
  exact List.prod_nonneg h

theorem Term.digitCount_pos (t : Term) : 0 < t.digitCount := by
  rw [digitCount, factors, List.map_cons, List.sum_cons]
  exact Nat.add_pos_left (Reckoner.digitCount_pos _) _

end

/-! ## Sums and differences -/

section

variable {e : Expr}

/-- A sum or difference is no greater than its parts together. -/
theorem natAbs_apply_le (s : Sign) (total n : Int) : (s.apply total n).natAbs ≤ total.natAbs + n.natAbs := by
  cases s with
  | plus => exact Int.natAbs_add_le total n
  | minus => exact Int.natAbs_sub_le total n

/-- A sum or difference has no more digits than its two parts together, if each has one. -/
theorem natAbs_apply_lt {s : Sign} {total n : Int} {k m : Nat} (hk : 0 < k) (hm : 0 < m) (htotal : total.natAbs < 10 ^ k)
    (hn : n.natAbs < 10 ^ m) : (s.apply total n).natAbs < 10 ^ (k + m) := by
  have hten : ∀ {j : Nat}, 0 < j → 2 ≤ 10 ^ j := fun hj => Nat.le_trans (by decide) (Nat.pow_le_pow_right (by decide) hj)
  calc (s.apply total n).natAbs
      ≤ total.natAbs + n.natAbs := natAbs_apply_le s total n
    _ < 10 ^ k + 10 ^ m := Nat.add_lt_add htotal hn
    _ ≤ 10 ^ k * 10 ^ m := Nat.add_le_mul (hten hk) (hten hm)
    _ = 10 ^ (k + m) := (pow_add 10 k m).symm

/-- A running total of signed terms has no more digits than what it started from and the terms together. -/
theorem natAbs_foldl_apply_lt {total : Int} {k : Nat} (hk : 0 < k) (htotal : total.natAbs < 10 ^ k)
    (tail : List (Sign × Term)) : (tail.foldl (fun total st => st.1.apply total st.2.value) total).natAbs <
      10 ^ (k + (tail.map fun st => st.2.digitCount).sum) := by
  induction tail generalizing total k with
  | nil => exact htotal
  | cons st tail ih =>
    rw [List.foldl_cons, List.map_cons, List.sum_cons, ← Nat.add_assoc]
    exact ih (Nat.add_pos_left hk _) (natAbs_apply_lt hk st.2.digitCount_pos htotal st.2.natAbs_value_lt)

/-- The digits of an expression are those of its terms. -/
theorem Expr.digitCount_eq_sum (e : Expr) : e.digitCount = (e.terms.map Term.digitCount).sum := by
  rw [digitCount, leaves, List.map_flatMap, List.flatMap, List.sum_flatten, List.map_map]
  rfl

/-- The value of an expression has no more digits than its integers together. -/
theorem Expr.natAbs_value_lt (e : Expr) : e.value.natAbs < 10 ^ e.digitCount := by
  rw [digitCount_eq_sum, terms, List.map_cons, List.sum_cons, List.map_map]
  exact natAbs_foldl_apply_lt e.head.digitCount_pos e.head.natAbs_value_lt e.tail

/-- No term has more digits than the expression that it belongs to. -/
theorem Term.digitCount_le {t : Term} (ht : t ∈ e.terms) : t.digitCount ≤ e.digitCount := by
  rw [e.digitCount_eq_sum]
  exact List.single_le_sum (fun _ _ => Nat.zero_le _) _ (List.mem_map_of_mem ht)

end

/-! ## Lines -/

section

variable {w : Width} {source : String} {e : Expr} {r : Line.Evaluation}

/-- A gap holds no digits. -/
theorem countP_gap (g : Gap) : g.chars.countP Char.isDigit = 0 :=
  List.countP_eq_zero.2 fun c hc => Bool.not_eq_true _ ▸ (isBlank_excludes (g.blank c hc)).2.1

/-- A run of digits holds nothing but digits. -/
theorem countP_digitRun (d : DigitRun) : d.chars.countP Char.isDigit = d.chars.length := List.countP_eq_length.2 d.digit

/-- The digits of a link are those of its literal. -/
theorem countP_link (k : Link) : k.text.countP Char.isDigit = k.literal.chars.length := by
  have hsign : ¬k.operator.sign.isDigit = true := Bool.not_eq_true _ ▸ (sign_excludes (sign_mem k.operator)).2.1
  rw [Link.text, List.countP_append, List.countP_cons_of_neg hsign, List.countP_append, countP_gap, countP_gap,
    countP_digitRun, Nat.zero_add, Nat.zero_add]

/-- The digits of a line form are those of its literals. -/
theorem countP_form (f : LineForm) :
    f.text.countP Char.isDigit = ((f.first :: f.links.map Link.literal).map fun d => d.chars.length).sum := by
  rw [LineForm.text, List.countP_append, List.countP_append, List.countP_append, countP_gap, countP_gap, countP_digitRun,
    Nat.zero_add, Nat.add_zero, List.countP_flatMap, List.map_cons, List.sum_cons, List.map_map]
  exact congrArg _ (congrArg _ (List.map_congr_left fun k _ => countP_link k))

/-- The value of a run of digits is written with no more digits than the run. -/
theorem digitCount_digitRun_le (d : DigitRun) : digitCount d.value ≤ d.chars.length := by
  rw [digitCount, DigitRun.value, Int.natAbs_natCast, toDigits_decimal d.digit]
  exact length_withoutLeadingZeros_le d.ne_nil

/-- The integers of an expression are written with no more digits than the line that it is read from. -/
theorem digitCount_le_of_parse (hw : w.Proper) (h : Line.parse w source = .ok e) : e.digitCount ≤ lineDigits source := by
  obtain ⟨f, htext, -, hleaves⟩ := exists_form_of_parse hw h
  rw [Expr.digitCount, hleaves, lineDigits, ← htext, countP_form, List.map_map]
  exact List.sum_le_sum fun d _ => digitCount_digitRun_le d

end

end Reckoner
