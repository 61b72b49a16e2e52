/-!
# Expressions: sums and differences of products of integers

An expression has two levels. A term is a chain of factors; an expression is a chain of terms, each but the first with the
sign it is joined by. Both chains associate to the left. An expression is as well a flat sequence, the first integer and
then operations (`Expr.first`, `Expr.operations`); `Expr.ofOperations` groups such a sequence into terms, so that a product
binds tighter than the signs around it. The rendering writes the flat sequence with single spaces between.
-/

namespace Reckoner

/-- A sign that joins a term to what stands before it. -/
inductive Sign where
  | plus | minus
  deriving DecidableEq, Repr

/-- The three operators. -/
inductive Operator where
  | join (sign : Sign)
  | times
  deriving DecidableEq, Repr

/-- A product: its first factor and the factors after it. -/
structure Term where
  head : Int
  tail : List Int
  deriving DecidableEq, Repr

/-- A sum: its first term and the terms after it, each with its sign. -/
structure Expr where
  head : Term
  tail : List (Sign × Term)
  deriving DecidableEq, Repr

/-- An operator and the integer after it. -/
abbrev Operation := Operator × Int

/-! ## Parts -/

/-- The factors of a term, the first included. -/
def Term.factors (t : Term) : List Int := t.head :: t.tail

/-- The terms of an expression, the first included. -/
def Expr.terms (e : Expr) : List Term := e.head :: e.tail.map Prod.snd

/-- All integers of an expression, from left to right. -/
def Expr.leaves (e : Expr) : List Int := e.terms.flatMap Term.factors

/-- The operations of a term after its first factor. -/
def Term.operations (t : Term) : List Operation := t.tail.map fun n => (.times, n)

/-- The integer an expression begins with. -/
def Expr.first (e : Expr) : Int := e.head.head

/-- The operations of an expression after its first integer, from left to right. -/
def Expr.operations (e : Expr) : List Operation :=
  e.head.operations ++ e.tail.flatMap fun st => (.join st.1, st.2.head) :: st.2.operations

/-- The expression with a given first integer and given operations: each run of multiplications becomes one term. -/
def Expr.ofOperations (first : Int) : List Operation → Expr
  | [] => ⟨⟨first, []⟩, []⟩
  | (.times, n) :: ops =>
    let e := ofOperations n ops
    ⟨⟨first, e.head.head :: e.head.tail⟩, e.tail⟩
  | (.join s, n) :: ops =>
    let e := ofOperations n ops
    ⟨⟨first, []⟩, (s, e.head) :: e.tail⟩

/-! ## Values -/

/-- The product of a term, multiplied out from left to right. -/
def Term.value (t : Term) : Int := t.tail.foldl (· * ·) t.head

/-- A sign applied to a running total and a value. -/
def Sign.apply : Sign → Int → Int → Int
  | .plus, total, n => total + n
  | .minus, total, n => total - n

/-- The value of an expression, added up from left to right. -/
def Expr.value (e : Expr) : Int := e.tail.foldl (fun total st => st.1.apply total st.2.value) e.head.value

/-! ## Rendering -/

/-- How a sign is written. -/
def Sign.symbol : Sign → String
  | .plus => "+"
  | .minus => "-"

/-- How an operator is written. -/
def Operator.symbol : Operator → String
  | .join s => s.symbol
  | .times => "*"

/-- The words of a first integer and operations after it. -/
def wordsOf (first : Int) (ops : List Operation) : List String :=
  first.repr :: ops.flatMap fun op => [op.1.symbol, op.2.repr]

/-- A term as it is written. -/
def Term.render (t : Term) : String := " ".intercalate (wordsOf t.head t.operations)

/-- An expression as it is written. The text is given for integers of every length; the program writes it only if each of them
can be written out (`Expr.written?`). -/
def Expr.render (e : Expr) : String := " ".intercalate (wordsOf e.first e.operations)

/-! ## Grouping and flattening -/

/-- To group operations into terms does not change the first integer. -/
theorem Expr.first_ofOperations (n : Int) (ops : List Operation) : (ofOperations n ops).first = n := by
  match ops with
  | [] => rfl
  | (.times, _) :: _ => rfl
  | (.join _, _) :: _ => rfl

/-- Grouping loses no operation. -/
theorem Expr.operations_ofOperations (n : Int) (ops : List Operation) : (ofOperations n ops).operations = ops := by
  induction ops generalizing n with
  | nil => rfl
  | cons op ops ih =>
    obtain ⟨o, m⟩ := op
    have hm := first_ofOperations m ops
    have hops := ih m
    simp only [first] at hm
    simp only [operations, Term.operations] at hops
    cases o with
    | times => simp [ofOperations, operations, Term.operations, hm, hops]
    | join s => simp [ofOperations, operations, Term.operations, hm, hops]

private theorem ofOperations_term (h : Int) (fs : List Int) (ops : List Operation)
    (hops : ∀ op ∈ ops.head?, op.1 ≠ .times) :
    Expr.ofOperations h (fs.map (fun n => (.times, n)) ++ ops) = ⟨⟨h, fs⟩, (Expr.ofOperations h ops).tail⟩ := by
  induction fs generalizing h with
  | nil =>
    match ops with
    | [] => rfl
    | (.times, _) :: _ => exact absurd rfl (hops _ rfl)
    | (.join _, _) :: _ => rfl
  | cons f fs ih =>
    have tail_eq : ∀ k, (Expr.ofOperations k ops).tail = (Expr.ofOperations f ops).tail := by
      match ops with
      | [] => exact fun _ => rfl
      | (.times, _) :: _ => exact absurd rfl (hops _ rfl)
      | (.join _, _) :: _ => exact fun _ => rfl
    simp only [List.map_cons, List.cons_append, Expr.ofOperations, ih f, tail_eq h]

/-- An expression is the grouping of its own flat sequence. -/
theorem Expr.ofOperations_operations (e : Expr) : ofOperations e.first e.operations = e := by
  obtain ⟨⟨h, fs⟩, tail⟩ := e
  induction tail generalizing h fs with
  | nil =>
    have := ofOperations_term h fs [] (by simp)
    simpa [first, operations, Term.operations, ofOperations] using this
  | cons st tail ih =>
    obtain ⟨s, ⟨k, gs⟩⟩ := st
    have hrest := ih k gs
    simp only [first, operations, Term.operations] at hrest ⊢
    rw [List.flatMap_cons, List.cons_append, ofOperations_term h fs _ (by simp)]
    simp only [ofOperations, hrest]

/-- The integers of an expression are its first one and those of its operations. -/
theorem leaves_eq (e : Expr) : e.leaves = e.first :: e.operations.map Prod.snd := by
  simp only [Expr.leaves, Expr.terms, Term.factors, Expr.first, Expr.operations, Term.operations, List.flatMap_cons,
    List.flatMap_map, List.map_append, List.map_flatMap, List.map_cons, List.map_map, List.cons_append, Function.comp_def,
    List.map_id']

end Reckoner
