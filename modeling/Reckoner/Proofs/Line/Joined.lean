import Reckoner.Proofs.Expr.Value
import Reckoner.Proofs.Line.Spelling

/-!
# Joined lines: two lines with an operator between them

Two expressions with an operator between them are one expression (`Expr.joined`), grouped anew: a sign takes only the first
term of what follows it, and a multiplication makes one term of the last term before it and the first term after it
(`value_joined`). A line with an operator at some place is an expression exactly if what stands before the operator is one and
what stands after it is one, and it is the one that these two are with the operator between them (`parse_joined_iff`).
-/

namespace Reckoner

/-- The expression that is written as two expressions with an operator between them. -/
def Expr.joined (e : Expr) (o : Operator) (e' : Expr) : Expr :=
  .ofOperations e.first (e.operations ++ (o, e'.first) :: e'.operations)

/-- The value of the last term of an expression, taken with its sign. -/
def Expr.lastSummand (e : Expr) : Int :=
  match e.tail.getLast? with
  | none => e.head.value
  | some (s, t) => s.apply 0 t.value

/-! ## The items of a joined expression -/

section

variable {o : Operator} {a b : List Item} {ops : List Operation} {e : Expr}

/-- The items of joined expressions are those of the first, the operator, and those of the second. -/
theorem yield_joined (e : Expr) (o : Operator) (e' : Expr) : (e.joined o e').yield = e.yield ++ .operator o :: e'.yield := by
  rw [Expr.joined, yield_ofOperations, List.flatMap_append, List.flatMap_cons, Expr.yield_eq e, Expr.yield_eq e']
  rfl

/-- Operations split at an operator: it is the first item of one of them, so an integer follows it. -/
theorem exists_of_flatMap_itemsOf (h : ops.flatMap itemsOf = a ++ .operator o :: b) :
    ∃ (ops₁ : List Operation) (n : Int) (ops₂ : List Operation),
      a = ops₁.flatMap itemsOf ∧ b = .value n :: ops₂.flatMap itemsOf := by
  induction ops generalizing a with
  | nil => exact absurd h (by simp)
  | cons op ops ih =>
    simp only [List.flatMap_cons, itemsOf, List.cons_append, List.nil_append] at h
    rcases a with _ | ⟨x, _ | ⟨y, a⟩⟩
    · obtain ⟨-, hb⟩ := List.cons.inj h
      exact ⟨[], op.2, ops, rfl, hb.symm⟩
    · exact absurd h (by simp)
    · simp only [List.cons_append, List.cons.injEq] at h
      obtain ⟨rfl, rfl, h⟩ := h
      obtain ⟨ops₁, n, ops₂, rfl, rfl⟩ := ih h
      exact ⟨op :: ops₁, n, ops₂, rfl, rfl⟩

/-- A yield splits at an operator into two yields. -/
theorem exists_of_yield_eq_append (h : e.yield = a ++ .operator o :: b) :
    ∃ e₁ e₂ : Expr, e₁.yield = a ∧ e₂.yield = b ∧ e = e₁.joined o e₂ := by
  rw [Expr.yield_eq] at h
  cases a with
  | nil => exact absurd h (by simp)
  | cons x a =>
    obtain ⟨rfl, hops⟩ := List.cons.inj h
    obtain ⟨ops₁, n, ops₂, rfl, rfl⟩ := exists_of_flatMap_itemsOf hops
    refine ⟨.ofOperations e.first ops₁, .ofOperations n ops₂, yield_ofOperations _ _, yield_ofOperations _ _, ?_⟩
    refine Expr.yield_injective ?_
    rw [yield_joined, yield_ofOperations, yield_ofOperations, Expr.yield_eq, hops]
    rfl

end

/-! ## The value of a joined expression -/

/-- The product that is pending in a pass, with its sign. -/
def Tally.pending (t : Tally) : Int := t.sign * t.product

/-- A pass over further terms leaves the last of them pending. -/
theorem pending_foldl_step (tail : List (Sign × Term)) (t : Tally) :
    ((tail.flatMap fun st => (.join st.1, st.2.head) :: st.2.operations).foldl Tally.step t).pending =
      match tail.getLast? with
      | none => t.pending
      | some (s, u) => s.apply 0 u.value := by
  induction tail generalizing t with
  | nil => rfl
  | cons st tail ih =>
    obtain ⟨s, u⟩ := st
    rw [List.flatMap_cons, List.foldl_append, List.foldl_cons, ih, List.getLast?_cons]
    cases tail.getLast? with
    | some st => rfl
    | none => cases s <;> rw [Tally.step, foldl_step_term] <;> simp [Tally.pending, Sign.apply]

/-- A pass over an expression ends with its value, its last term still pending. -/
theorem pass_expr (e : Expr) : (e.operations.foldl Tally.step (.start e.first)).flush = e.value ∧
    (e.operations.foldl Tally.step (.start e.first)).pending = e.lastSummand := by
  refine ⟨(value_eq_onePass e).symm, ?_⟩
  rw [Expr.operations, List.foldl_append, Expr.first, Tally.start, foldl_step_term, pending_foldl_step, Expr.lastSummand]
  cases e.tail.getLast? with
  | some st => rfl
  | none => exact Int.one_mul _

/-- A pass over an expression whose first integer is pending as a multiple: that multiple of the first term is added, and then
the rest of the expression. -/
theorem flush_pass_multiple (total sign m : Int) (e : Expr) :
    (e.operations.foldl Tally.step ⟨total, sign, m * e.first⟩).flush =
      total + sign * (m * e.head.value) + (e.value - e.head.value) := by
  rw [Expr.operations, List.foldl_append, Expr.first, foldl_step_multiple, flush_foldl_step, foldl_apply_eq_add_sum,
    Expr.value_eq_sum]
  simp only [Tally.flush]
  omega

/-- The value of two expressions with an operator between them: the operator is applied to the first term of the second
expression, a multiplication to the last term of the first as well, and the rest of the second expression is added. For of the
pass over the first expression only the total and what is pending count. -/
theorem value_joined (e : Expr) (o : Operator) (e' : Expr) :
    (e.joined o e').value =
      (match o with
        | .join s => s.apply e.value e'.head.value
        | .times => (e.value - e.lastSummand) + e.lastSummand * e'.head.value) + (e'.value - e'.head.value) := by
  obtain ⟨hflush, hpending⟩ := pass_expr e
  rw [value_eq_onePass, Expr.joined, Expr.first_ofOperations, Expr.operations_ofOperations, onePass, List.foldl_append,
    List.foldl_cons]
  generalize e.operations.foldl Tally.step (.start e.first) = t at hflush hpending
  rw [← hflush, ← hpending]
  cases o with
  | join s =>
    have hone : ∀ sign, (e'.operations.foldl Tally.step ⟨t.flush, sign, e'.first⟩).flush =
        t.flush + sign * e'.head.value + (e'.value - e'.head.value) := by
      intro sign
      have h := flush_pass_multiple t.flush sign 1 e'
      rwa [Int.one_mul, Int.one_mul] at h
    cases s with
    | plus => simp only [Tally.step, hone, Int.one_mul, Sign.apply]
    | minus => simp only [Tally.step, hone, Int.neg_mul, Int.one_mul, ← Int.sub_eq_add_neg, Sign.apply]
  | times =>
    rw [Tally.step, flush_pass_multiple, ← Int.mul_assoc, Tally.flush, Tally.pending, Int.add_sub_cancel]

/-! ## Joined lines -/

section

variable {w : Width} {s₁ s₂ : String} {e : Expr}

/-- A line with an operator at some place is read as the two expressions before and after it with the operator between. -/
theorem parse_joined_iff {o : Operator} :
    Line.parse w (s₁ ++ o.symbol ++ s₂) = .ok e ↔
      ∃ e₁ e₂, Line.parse w s₁ = .ok e₁ ∧ Line.parse w s₂ = .ok e₂ ∧ e = e₁.joined o e₂ := by
  simp only [parse_eq_ok_iff, String.toList_append, toList_symbol, List.append_assoc, List.singleton_append,
    spells_divided_iff (divides_sign o) (spells_sign o)]
  constructor
  · rintro ⟨_, _, h, hxs, hys⟩
    obtain ⟨a, _, ha, rfl, hb⟩ := List.map_eq_append_iff.1 h
    obtain ⟨x, b, rfl, hx, rfl⟩ := List.map_eq_cons_iff.1 hb
    obtain rfl := Option.some.inj hx
    obtain ⟨e₁, e₂, rfl, rfl, he⟩ := exists_of_yield_eq_append ha
    exact ⟨e₁, e₂, hxs, hys, he⟩
  · rintro ⟨e₁, e₂, h₁, h₂, rfl⟩
    exact ⟨_, _, by rw [yield_joined, List.map_append, List.map_cons], h₁, h₂⟩

end

/-- A line with an operator at some place is accepted exactly if what stands before the operator and what stands after it are.
A plus sign adds the values of the two. A minus sign subtracts the first term of the second line and adds the rest of it. A
multiplication takes the last term of the first line, with its sign, out of its value, puts in its product with the first term
of the second line, and adds the rest of that line. -/
theorem value_append_operator (w : Width) (s₁ s₂ : String) :
    (∀ op ∈ ["+", "-", "*"], (∃ v, Line.value w (s₁ ++ op ++ s₂) = .ok v) ↔
      (∃ v, Line.value w s₁ = .ok v) ∧ ∃ v, Line.value w s₂ = .ok v) ∧
      ∀ r₁ r₂, Line.evaluate w s₁ = .ok r₁ → Line.evaluate w s₂ = .ok r₂ →
        Line.value w (s₁ ++ "+" ++ s₂) = .ok (r₁.value + r₂.value) ∧
          Line.value w (s₁ ++ "-" ++ s₂) =
            .ok (r₁.value - r₂.expr.head.value + (r₂.value - r₂.expr.head.value)) ∧
          Line.value w (s₁ ++ "*" ++ s₂) =
            .ok ((r₁.value - r₁.expr.lastSummand) + r₁.expr.lastSummand * r₂.expr.head.value +
              (r₂.value - r₂.expr.head.value)) := by
  constructor
  · intro op hop
    obtain ⟨o, rfl⟩ : ∃ o : Operator, o.symbol = op := by
      simp only [List.mem_cons, List.not_mem_nil, or_false] at hop
      rcases hop with rfl | rfl | rfl
      · exact ⟨.join .plus, rfl⟩
      · exact ⟨.join .minus, rfl⟩
      · exact ⟨.times, rfl⟩
    simp only [exists_value_iff, parse_joined_iff]
    constructor
    · rintro ⟨_, e₁, e₂, h₁, h₂, -⟩
      exact ⟨⟨e₁, h₁⟩, ⟨e₂, h₂⟩⟩
    · rintro ⟨⟨e₁, h₁⟩, ⟨e₂, h₂⟩⟩
      exact ⟨_, e₁, e₂, h₁, h₂, rfl⟩
  · intro r₁ r₂ h₁ h₂
    obtain ⟨hparse₁, hvalue₁⟩ := parse_of_evaluate h₁
    obtain ⟨hparse₂, hvalue₂⟩ := parse_of_evaluate h₂
    have hjoined : ∀ o : Operator, Line.value w (s₁ ++ o.symbol ++ s₂) = .ok (r₁.expr.joined o r₂.expr).value :=
      fun o => value_of_parse (parse_joined_iff.2 ⟨_, _, hparse₁, hparse₂, rfl⟩)
    have hplus := hjoined (.join .plus)
    rw [value_joined, ← hvalue₁, ← hvalue₂] at hplus
    have hminus := hjoined (.join .minus)
    rw [value_joined, ← hvalue₁, ← hvalue₂] at hminus
    have htimes := hjoined .times
    rw [value_joined, ← hvalue₁, ← hvalue₂] at htimes
    refine ⟨?_, hminus, htimes⟩
    have hsum : r₁.value + r₂.expr.head.value + (r₂.value - r₂.expr.head.value) = r₁.value + r₂.value := by omega
    rw [← hsum]
    exact hplus

/-- A difference, an operator, and a sum that begins with a product. -/
theorem value_append_operator_difference :
    Line.evaluate (.bits 8) "5 - 2" =
        .ok ⟨[⟨.number, "5", 0⟩, ⟨.minus, "-", 2⟩, ⟨.number, "2", 4⟩, Token.endOfLine 5], ⟨⟨5, []⟩, [(.minus, ⟨2, []⟩)]⟩, 3⟩ ∧
      Line.evaluate (.bits 8) "3*4+1" =
        .ok ⟨[⟨.number, "3", 0⟩, ⟨.times, "*", 1⟩, ⟨.number, "4", 2⟩, ⟨.plus, "+", 3⟩, ⟨.number, "1", 4⟩, Token.endOfLine 5],
          ⟨⟨3, [4]⟩, [(.plus, ⟨1, []⟩)]⟩, 13⟩ ∧
      Line.value (.bits 8) ("5 - 2" ++ "+" ++ "3*4+1") = .ok 16 ∧
      Line.value (.bits 8) ("5 - 2" ++ "-" ++ "3*4+1") = .ok (-8) ∧
      Line.value (.bits 8) ("5 - 2" ++ "*" ++ "3*4+1") = .ok (-18) := by
  have h₁ : Line.evaluate (.bits 8) "5 - 2" =
      .ok ⟨[⟨.number, "5", 0⟩, ⟨.minus, "-", 2⟩, ⟨.number, "2", 4⟩, Token.endOfLine 5], ⟨⟨5, []⟩, [(.minus, ⟨2, []⟩)]⟩, 3⟩ := by
    decide +kernel
  have h₂ : Line.evaluate (.bits 8) "3*4+1" =
      .ok ⟨[⟨.number, "3", 0⟩, ⟨.times, "*", 1⟩, ⟨.number, "4", 2⟩, ⟨.plus, "+", 3⟩, ⟨.number, "1", 4⟩, Token.endOfLine 5],
        ⟨⟨3, [4]⟩, [(.plus, ⟨1, []⟩)]⟩, 13⟩ := by
    decide +kernel
  exact ⟨h₁, h₂, (value_append_operator (.bits 8) "5 - 2" "3*4+1").2 _ _ h₁ h₂⟩

end Reckoner
