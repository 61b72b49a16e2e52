import Mathlib
import Reckoner.Expr

/-!
# Values as sums of products

A term comes to the product of its factors (`Term.value_eq_prod`), and an expression to the sum of its terms, each times the
weight of its sign (`Expr.value_eq_sum`). Neither depends on an order: the factors of a term may change places, and so may the
terms after the first, each with its sign (`Expr.value_of_perm`, `Expr.value_of_factors_perm`).
-/

namespace Reckoner

/-- What a sign multiplies the value of its term by. -/
def Sign.weight : Sign → Int
  | .plus => 1
  | .minus => -1

/-- What a term comes to after its sign. -/
def summand (st : Sign × Term) : Int := st.1.weight * st.2.value

section

variable {t u : Term} {e : Expr} {tail : List (Sign × Term)}

/-- A term is the product of its factors. -/
theorem Term.value_eq_prod (t : Term) : t.value = t.factors.prod := by
  rw [value, factors, List.prod_eq_foldl, List.foldl_cons, one_mul]

theorem Term.value_of_perm (h : t.factors.Perm u.factors) : t.value = u.value := by
  rw [t.value_eq_prod, u.value_eq_prod]
  exact h.prod_eq

/-- To apply a sign is to add with its weight. -/
theorem Sign.apply_eq_add (s : Sign) (total n : Int) : s.apply total n = total + s.weight * n := by
  cases s with
  | plus => simp [apply, weight]
  | minus => simp [apply, weight, Int.sub_eq_add_neg]

/-- A running total of signed terms is what it started from and the sum of the terms. -/
theorem foldl_apply_eq_add_sum (tail : List (Sign × Term)) (total : Int) :
    tail.foldl (fun total st => st.1.apply total st.2.value) total = total + (tail.map summand).sum := by
  induction tail generalizing total with
  | nil => simp
  | cons st tail ih =>
    rw [List.foldl_cons, ih, Sign.apply_eq_add, List.map_cons, List.sum_cons, summand, Int.add_assoc]

/-- An expression is the sum of its terms, each times the weight of its sign. -/
theorem Expr.value_eq_sum (e : Expr) : e.value = e.head.value + (e.tail.map summand).sum :=
  foldl_apply_eq_add_sum e.tail e.head.value

/-- The terms after the first may change places, each with its sign. -/
theorem Expr.value_of_perm (h : tail.Perm e.tail) : (⟨e.head, tail⟩ : Expr).value = e.value := by
  rw [value_eq_sum, value_eq_sum, (h.map summand).sum_eq]

/-- The factors of each term may change places. -/
theorem Expr.value_of_factors_perm {e e' : Expr} (hhead : e'.head.factors.Perm e.head.factors)
    (htail : List.Forall₂ (fun st' st => st'.1 = st.1 ∧ st'.2.factors.Perm st.2.factors) e'.tail e.tail) :
    e'.value = e.value := by
  have hsummands : e'.tail.map summand = e.tail.map summand := by
    rw [← List.forall₂_eq_eq_eq, List.forall₂_map_left_iff, List.forall₂_map_right_iff]
    refine htail.imp ?_
    rintro st' st ⟨hsign, hperm⟩
    rw [summand, summand, hsign, Term.value_of_perm hperm]
  rw [value_eq_sum, value_eq_sum, Term.value_of_perm hhead, hsummands]

end

end Reckoner
