import Reckoner.Expr

/-!
# One pass: the value of a flat sequence without a tree

A flat sequence of integers and operators can be added up in one pass that keeps a total, a pending sign and the product that
is being multiplied out. A multiplication goes into the product; a sign moves the product into the total and begins a new
one. This comes to the value of the tree (`value_eq_onePass`).
-/

namespace Reckoner

/-- The state of a pass: the total so far, the sign of the product that is pending, and that product. -/
structure Tally where
  total : Int
  sign : Int
  product : Int
  deriving DecidableEq, Repr

namespace Tally

/-- Before the first operation the first integer is pending, to be added to nothing. -/
def start (n : Int) : Tally := ⟨0, 1, n⟩

/-- The pending product goes into the total. -/
def flush (t : Tally) : Int := t.total + t.sign * t.product

/-- One operation. -/
def step (t : Tally) : Operation → Tally
  | (.times, n) => { t with product := t.product * n }
  | (.join .plus, n) => ⟨t.flush, 1, n⟩
  | (.join .minus, n) => ⟨t.flush, -1, n⟩

end Tally

/-- The value of a first integer and operations after it, in one pass. -/
def onePass (first : Int) (ops : List Operation) : Int := (ops.foldl Tally.step (.start first)).flush

/-- A pass over the operations of a term multiplies a pending multiple of its first factor out to that multiple of the term. -/
theorem foldl_step_multiple (total sign m : Int) (t : Term) :
    t.operations.foldl Tally.step ⟨total, sign, m * t.head⟩ = ⟨total, sign, m * t.value⟩ := by
  obtain ⟨n, fs⟩ := t
  induction fs generalizing n with
  | nil => rfl
  | cons f fs ih =>
    have h := ih (n * f)
    rw [← Int.mul_assoc] at h
    exact h

/-- A pass over the operations of a term multiplies it out. -/
theorem foldl_step_term (total sign : Int) (t : Term) :
    t.operations.foldl Tally.step ⟨total, sign, t.head⟩ = ⟨total, sign, t.value⟩ := by
  have h := foldl_step_multiple total sign 1 t
  rwa [Int.one_mul, Int.one_mul] at h

/-- A pass over further terms adds and subtracts their values, the pending product first. -/
theorem flush_foldl_step (tail : List (Sign × Term)) (t : Tally) :
    ((tail.flatMap fun st => (.join st.1, st.2.head) :: st.2.operations).foldl Tally.step t).flush =
      tail.foldl (fun total st => st.1.apply total st.2.value) t.flush := by
  induction tail generalizing t with
  | nil => rfl
  | cons st tail ih =>
    obtain ⟨s, u⟩ := st
    rw [List.flatMap_cons, List.foldl_append, List.foldl_cons, List.foldl_cons]
    cases s with
    | plus =>
      rw [Tally.step, foldl_step_term, ih]
      simp only [Tally.flush, Sign.apply, Int.one_mul]
    | minus =>
      rw [Tally.step, foldl_step_term, ih]
      simp only [Tally.flush, Sign.apply, Int.neg_mul, Int.one_mul, Int.sub_eq_add_neg]

/-- The value of an expression is that of its flat sequence in one pass. -/
theorem value_eq_onePass (e : Expr) : e.value = onePass e.first e.operations := by
  rw [onePass, Expr.operations, List.foldl_append, Expr.first, Tally.start, foldl_step_term, flush_foldl_step, Expr.value]
  simp only [Tally.flush, Int.one_mul, Int.zero_add]

end Reckoner
