import Reckoner.Proofs.Reading.Descent

/-!
# Alternation: which lists of tokens are expressions

An expression is written as operands and operators in turn, the first and the last of them operands, and then an end mark.
`MayStandAt` says which tokens may stand at an index; the first token that may not decides what a list comes to, and a list
that is all operands and operators in turn is exhausted. The tree that is read yields the tokens before the end mark, in their
order (`Expr.yield`), and no other tree does. It is the tree that a reading term by term builds (`Reading.descent`).
-/

namespace Reckoner

/-! ## Yields -/

/-- One item of an expression as it is written: an integer or an operator. -/
inductive Item where
  | value (n : Int)
  | operator (o : Operator)
  deriving DecidableEq, Repr

/-- The items of a term in their order: its first factor, and each further one after a multiplication sign. -/
def Term.yield (t : Term) : List Item := .value t.head :: t.tail.flatMap fun n => [.operator .times, .value n]

/-- The items of an expression in their order: those of its first term, and those of each further one after its sign. -/
def Expr.yield (e : Expr) : List Item :=
  e.head.yield ++ e.tail.flatMap fun st => .operator (.join st.1) :: st.2.yield

/-- The two items of an operation. -/
def itemsOf (op : Operation) : List Item := [.operator op.1, .value op.2]

/-- The yield of a term is its first factor and the items of its operations. -/
theorem Term.yield_eq (t : Term) : t.yield = .value t.head :: t.operations.flatMap itemsOf := by
  rw [Term.yield, Term.operations, List.flatMap_map]
  rfl

/-- The yield of an expression is its flat sequence. -/
theorem Expr.yield_eq (e : Expr) : e.yield = .value e.first :: e.operations.flatMap itemsOf := by
  simp only [Expr.yield, Expr.operations, Expr.first, Term.yield_eq, List.flatMap_append, List.flatMap_assoc,
    List.flatMap_cons, List.cons_append]
  rfl

/-- Operations are told by their items. -/
theorem flatMap_itemsOf_injective {ops ops' : List Operation} (h : ops.flatMap itemsOf = ops'.flatMap itemsOf) :
    ops = ops' := by
  induction ops generalizing ops' with
  | nil =>
    cases ops' with
    | nil => rfl
    | cons op' ops' => exact absurd h (by simp [itemsOf])
  | cons op ops ih =>
    cases ops' with
    | nil => exact absurd h (by simp [itemsOf])
    | cons op' ops' =>
      simp only [List.flatMap_cons, itemsOf, List.cons_append, List.nil_append, List.cons.injEq, Item.operator.injEq,
        Item.value.injEq] at h
      obtain ⟨ho, hn, hops⟩ := h
      rw [ih hops, Prod.ext ho hn]

/-- No two expressions have the same yield. -/
theorem Expr.yield_injective {e e' : Expr} (h : e.yield = e'.yield) : e = e' := by
  rw [Expr.yield_eq, Expr.yield_eq, List.cons.injEq, Item.value.injEq] at h
  rw [← e.ofOperations_operations, ← e'.ofOperations_operations, h.1, flatMap_itemsOf_injective h.2]

/-! ## Operands and operators in turn -/

/-- A number token whose text is an integer of the width. -/
def Token.IsOperand (w : Width) (t : Token) : Prop := t.kind = .number ∧ ∃ n, t.literal w = .ok n

/-- A token of one of the three operators. -/
def Token.IsOperator (t : Token) : Prop := t.kind = .plus ∨ t.kind = .minus ∨ t.kind = .times

/-- Whether a token may stand at an index of an expression: operands stand at the even ones, operators at the odd ones. -/
def Token.MayStandAt (w : Width) (i : Nat) (t : Token) : Prop := if i % 2 = 0 then t.IsOperand w else t.IsOperator

/-- Every token of a list that begins at index `i` may stand where it stands. -/
def Alternates (w : Width) (i : Nat) (ts : List Token) : Prop :=
  ∀ j (t : Token), ts[j]? = some t → t.MayStandAt w (i + j)

/-- The item that a token stands for. -/
def Token.item? (w : Width) (t : Token) : Option Item :=
  match t.kind with
  | .number => (t.literal w).toOption.map .value
  | .plus => some (.operator (.join .plus))
  | .minus => some (.operator (.join .minus))
  | .times => some (.operator .times)
  | _ => none

variable {w : Width} {i : Nat} {t u : Token} {ts s rest : List Token}

/-- At an even index stands an operand. -/
theorem mayStandAt_even (h : i % 2 = 0) : t.MayStandAt w i ↔ t.IsOperand w := by
  rw [Token.MayStandAt, if_pos h]

theorem mayStandAt_odd (h : i % 2 = 1) : t.MayStandAt w i ↔ t.IsOperator := by
  rw [Token.MayStandAt, if_neg (by omega)]

theorem alternates_nil : Alternates w i [] := nofun

/-- Tokens alternate if the first may stand at its index and the others alternate from the next index on. -/
theorem alternates_cons_iff : Alternates w i (t :: ts) ↔ t.MayStandAt w i ∧ Alternates w (i + 1) ts := by
  constructor
  · intro h
    refine ⟨h 0 t rfl, fun j u hu => ?_⟩
    rw [Nat.add_right_comm]
    exact h (j + 1) u hu
  · rintro ⟨ht, hts⟩ j u hu
    cases j with
    | zero =>
      obtain rfl := Option.some.inj hu
      exact ht
    | succ j =>
      rw [← Nat.add_assoc, Nat.add_right_comm]
      exact hts j u hu

/-- Two lists one after the other alternate if both do, the second from the index at which it begins. -/
theorem alternates_append_iff : Alternates w i (s ++ ts) ↔ Alternates w i s ∧ Alternates w (i + s.length) ts := by
  induction s generalizing i with
  | nil => simp [alternates_nil]
  | cons t s ih =>
    rw [List.cons_append, alternates_cons_iff, alternates_cons_iff, ih, List.length_cons, and_assoc, Nat.add_right_comm,
      Nat.add_assoc]

/-- Only the parity of the index counts. -/
theorem alternates_congr {j : Nat} (h : i % 2 = j % 2) : Alternates w i ts ↔ Alternates w j ts := by
  have hmay : ∀ k (t : Token), t.MayStandAt w (i + k) ↔ t.MayStandAt w (j + k) := fun k t => by
    rw [Token.MayStandAt, Token.MayStandAt, show (i + k) % 2 = (j + k) % 2 by omega]
  simp only [Alternates, hmay]

/-- A list that does not alternate has a first token that may not stand where it stands. -/
theorem exists_first_misplaced (h : ¬Alternates w i ts) :
    ∃ s t rest, ts = s ++ t :: rest ∧ Alternates w i s ∧ ¬t.MayStandAt w (i + s.length) := by
  induction ts generalizing i with
  | nil => exact absurd alternates_nil h
  | cons t ts ih =>
    by_cases ht : t.MayStandAt w i
    · obtain ⟨s, u, rest, rfl, hs, hu⟩ := ih fun hts => h (alternates_cons_iff.2 ⟨ht, hts⟩)
      refine ⟨t :: s, u, rest, rfl, alternates_cons_iff.2 ⟨ht, hs⟩, ?_⟩
      rwa [List.length_cons, Nat.add_comm s.length, ← Nat.add_assoc]
    · exact ⟨[], t, ts, rfl, alternates_nil, ht⟩

/-- A token is an operator if its kind stands for one. -/
theorem isOperator_iff : t.IsOperator ↔ t.kind.operator? ≠ none := by
  rw [Token.IsOperator]
  cases t.kind <;> simp [Token.Kind.operator?]

/-- The tokens of an operator are those of its kind. -/
theorem item?_eq_operator_iff {o : Operator} : t.item? w = some (.operator o) ↔ t.kind.operator? = some o := by
  rw [Token.item?]
  cases hk : t.kind with
  | number => cases t.literal w <;> simp [Except.toOption, Token.Kind.operator?]
  | _ => simp [Token.Kind.operator?]

/-- A token is an operand if it is a number token and its text a literal. -/
theorem isOperand_iff : t.IsOperand w ↔ ∃ n, t.number w = .ok n := by
  rw [Token.IsOperand, Token.number]
  by_cases hk : t.kind = .number
  · rw [if_pos hk]
    exact and_iff_right hk
  · rw [if_neg hk]
    exact iff_of_false (fun h => hk h.1) nofun

/-- The tokens of an integer are the number tokens that denote it. -/
theorem item?_eq_value_iff {n : Int} : t.item? w = some (.value n) ↔ t.number w = .ok n := by
  rw [Token.item?, Token.number]
  cases hk : t.kind with
  | number => cases t.literal w <;> simp [Except.toOption]
  | _ => simp

theorem literal_eq_ok_iff {n : Int} : t.literal w = .ok n ↔ literal w t.text.toList = .ok n := by
  rw [Token.literal]
  split
  · rename_i v hv
    rw [hv]
    rw [Except.ok.injEq, Except.ok.injEq]
  all_goals
    rename_i hv
    rw [hv]
    exact iff_of_false nofun nofun

/-- Why a token is no literal: its text is no integer, or one that does not fit, or nothing fits the width. -/
theorem literal_eq_error {h : Halt} (ht : t.literal w = .error h) :
    h = .refused ⟨.malformed, t⟩ ∨ (∃ n, h = .refused ⟨.tooWide n, t⟩) ∨ h = .noBits t := by
  rw [Token.literal] at ht
  split at ht
  · exact absurd ht nofun
  · exact .inl (Except.error.inj ht).symm
  · exact .inr (.inl ⟨_, (Except.error.inj ht).symm⟩)
  · exact .inr (.inr (Except.error.inj ht).symm)

/-- Where some integer fits the width, no literal meets a width of no bits. -/
theorem literal_ne_noBits (hw : w.Proper) {u : Token} : t.literal w ≠ .error (.noBits u) := by
  intro h
  have hl : literal w t.text.toList = .error .noBits := by
    unfold Token.literal at h
    split at h
    · cases h
    · cases h
    · cases h
    · assumption
  unfold literal at hl
  split at hl
  · cases hl
  · split at hl
    · cases hl
    · split at hl
      · rename_i n hn
        have hn' : 1 ≤ n := hw
        omega
      · split at hl <;> cases hl

/-- Under a width that some integer fits, a token that is no literal is refused: as malformed, or as too wide. -/
theorem exists_refused_of_literal (hw : w.Proper) (ht : ∀ n, t.literal w ≠ .ok n) :
    ∃ c, t.literal w = .error (.refused ⟨c, t⟩) ∧ (c = .malformed ∨ ∃ n, c = .tooWide n) := by
  cases hlit : t.literal w with
  | ok n => exact absurd hlit (ht n)
  | error h =>
    rcases literal_eq_error hlit with rfl | ⟨n, rfl⟩ | rfl
    · exact ⟨_, rfl, .inl rfl⟩
    · exact ⟨_, rfl, .inr ⟨n, rfl⟩⟩
    · exact absurd hlit (literal_ne_noBits hw)

/-- Why a token is no operand: it is no number token, or its text is no integer of the width. -/
theorem number_eq_error {h : Halt} (ht : t.number w = .error h) :
    (t.kind ≠ .number ∧ h = .refused ⟨.unexpected .number, t⟩) ∨
      (t.kind = .number ∧ t.literal w = .error h ∧
        (h = .refused ⟨.malformed, t⟩ ∨ (∃ n, h = .refused ⟨.tooWide n, t⟩) ∨ h = .noBits t)) := by
  rw [Token.number] at ht
  split at ht
  · exact .inr ⟨‹_›, ht, literal_eq_error ht⟩
  · exact .inl ⟨‹_›, (Except.error.inj ht).symm⟩

/-! ## Operations off the front of a list -/

/-- After an operand an operator comes first. -/
theorem exists_operator (h : Alternates w 1 (t :: ts)) :
    ∃ o, t.kind.operator? = some o ∧ t.item? w = some (.operator o) ∧ Alternates w 2 ts := by
  obtain ⟨ht, hts⟩ := alternates_cons_iff.1 h
  obtain ⟨o, ho⟩ := Option.ne_none_iff_exists'.1 (isOperator_iff.1 ((mayStandAt_odd rfl).1 ht))
  exact ⟨o, ho, item?_eq_operator_iff.2 ho, hts⟩

/-- At an even index an alternating list has a token that denotes an integer, and operators and operands in turn after it. -/
theorem exists_operand {i : Nat} (hi : i % 2 = 0) (h : Alternates w i (t :: ts)) :
    ∃ n, t.number w = .ok n ∧ t.item? w = some (.value n) ∧ Alternates w 1 ts := by
  obtain ⟨ht, hts⟩ := alternates_cons_iff.1 h
  obtain ⟨n, hn⟩ := isOperand_iff.1 ((mayStandAt_even hi).1 ht)
  exact ⟨n, hn, item?_eq_value_iff.2 hn, (alternates_congr (by omega)).1 hts⟩

/-- An operator and an operand are one operation, and the chain goes on after them. -/
theorem operations_cons_cons {o : Operator} {n : Int} (ht : t.kind.operator? = some o) (hu : u.number w = .ok n) :
    Reading.operations w (fun _ => true) (t :: u :: ts) =
      ((Reading.operations w (fun _ => true) ts).1.map ((o, n) :: ·), (Reading.operations w (fun _ => true) ts).2) := by
  rw [Reading.operations]
  simp only [ht, hu, if_true]

/-- Operations end before a token that is no operator. -/
theorem operations_complete (rest : List Token) : ∀ {s : List Token}, Alternates w 1 s → s.length % 2 = 0 →
    t.kind.operator? = none → ∃ ops, Reading.operations w (fun _ => true) (s ++ t :: rest) = (.ok ops, t :: rest) ∧
      (ops.flatMap itemsOf).map some = s.map (Token.item? w)
  | [], _, _, ht => ⟨[], by rw [List.nil_append, Reading.operations]; simp only [ht], rfl⟩
  | [_], _, hlen, _ => absurd hlen (by simp)
  | o :: n :: s, hs, hlen, ht => by
    obtain ⟨op, ho, hoi, hs⟩ := exists_operator hs
    obtain ⟨v, hn, hni, hs⟩ := exists_operand rfl hs
    obtain ⟨ops, hops, hitems⟩ := operations_complete rest hs (by simp only [List.length_cons] at hlen; omega) ht
    refine ⟨(op, v) :: ops, ?_, ?_⟩
    · rw [List.cons_append, List.cons_append, operations_cons_cons ho hn, hops]
      rfl
    · simp only [List.flatMap_cons, itemsOf, List.map_append, List.map_cons, List.map_nil, hitems, hoi, hni]
      rfl

/-- Operators and operands in turn that nothing ends leave the chain without a token to look at. -/
theorem operations_exhausted : ∀ {s : List Token}, Alternates w 1 s →
    Reading.operations w (fun _ => true) s = (.error .exhausted, [])
  | [], _ => by rw [Reading.operations]
  | [o], hs => by
    obtain ⟨op, ho, -, -⟩ := exists_operator hs
    rw [Reading.operations]
    simp only [ho, if_true]
  | o :: n :: s, hs => by
    obtain ⟨op, ho, -, hs⟩ := exists_operator hs
    obtain ⟨v, hn, -, hs⟩ := exists_operand rfl hs
    rw [operations_cons_cons ho hn, operations_exhausted hs]
    rfl

/-- After an operator, a token that is no operand ends the chain. -/
theorem operations_misplaced {h : Halt} : ∀ {s : List Token}, Alternates w 1 s → s.length % 2 = 1 → t.number w = .error h →
    Reading.operations w (fun _ => true) (s ++ t :: rest) = (.error h, rest)
  | [], _, hlen, _ => absurd hlen (by simp)
  | [o], hs, _, ht => by
    obtain ⟨op, ho, -, -⟩ := exists_operator hs
    rw [List.singleton_append, Reading.operations]
    simp only [ho, ht, if_true]
  | o :: n :: s, hs, hlen, ht => by
    obtain ⟨op, ho, -, hs⟩ := exists_operator hs
    obtain ⟨v, hn, -, hs⟩ := exists_operand rfl hs
    rw [List.cons_append, List.cons_append, operations_cons_cons ho hn,
      operations_misplaced hs (by simp only [List.length_cons] at hlen; omega) ht]
    rfl

/-! ## Expressions off the front of a list -/

/-- An expression is a number, and then operations of any kind. -/
theorem expr_cons {n : Int} (ht : t.number w = .ok n) :
    Reading.expr w (t :: ts) =
      ((Reading.operations w (fun _ => true) ts).1.map (Expr.ofOperations n), (Reading.operations w (fun _ => true) ts).2) := by
  simp only [Reading.expr, Reading.chain, Reading.number, ht]
  cases (Reading.operations w (fun _ => true) ts).1 <;> rfl

/-- A list that does not begin with an operand fails at its first token. -/
theorem expr_cons_error {h : Halt} (ht : t.number w = .error h) : Reading.expr w (t :: ts) = (.error h, ts) := by
  simp only [Reading.expr, Reading.chain, Reading.number, ht]
  rfl

/-- To group operations into terms does not change the items or their order. -/
theorem yield_ofOperations (n : Int) (ops : List Operation) :
    (Expr.ofOperations n ops).yield = .value n :: ops.flatMap itemsOf := by
  rw [Expr.yield_eq, Expr.first_ofOperations, Expr.operations_ofOperations]

/-- Operands and operators in turn, the last an operand, are read up to a token that is no operator. -/
theorem expr_complete (rest : List Token) (hs : Alternates w 0 s) (hlen : s.length % 2 = 1) (ht : t.kind.operator? = none) :
    ∃ e, Reading.expr w (s ++ t :: rest) = (.ok e, t :: rest) ∧ e.yield.map some = s.map (Token.item? w) := by
  cases s with
  | nil => exact absurd hlen (by simp)
  | cons u s =>
    obtain ⟨n, hn, hi, hs⟩ := exists_operand rfl hs
    obtain ⟨ops, hops, hitems⟩ := operations_complete rest hs (by simp only [List.length_cons] at hlen; omega) ht
    refine ⟨.ofOperations n ops, by rw [List.cons_append, expr_cons hn, hops]; rfl, ?_⟩
    rw [yield_ofOperations, List.map_cons, hitems, List.map_cons, hi]

/-! ## What a list of tokens comes to -/

/-- A list that alternates to its end is exhausted. -/
theorem ofTokens_exhausted (hs : Alternates w 0 s) : Expr.ofTokens w s = .error .exhausted := by
  cases s with
  | nil => rfl
  | cons u s =>
    obtain ⟨n, hn, -, hs⟩ := exists_operand rfl hs
    rw [Expr.ofTokens, expr_cons hn, operations_exhausted hs]
    rfl

/-- An end mark after an operand ends the expression, whatever follows. -/
theorem ofTokens_complete (rest : List Token) (hs : Alternates w 0 s) (hlen : s.length % 2 = 1) (ht : t.kind = .endMark) :
    ∃ e, Expr.ofTokens w (s ++ t :: rest) = .ok e ∧ e.yield.map some = s.map (Token.item? w) := by
  obtain ⟨e, he, hyield⟩ := expr_complete rest hs hlen (by rw [ht]; rfl)
  exact ⟨e, by rw [Expr.ofTokens, he]; exact if_pos ht, hyield⟩

/-- A token after an operand that is neither an operator nor an end mark is left over. -/
theorem ofTokens_leftover (hs : Alternates w 0 s) (hlen : s.length % 2 = 1) (ht : ¬t.IsOperator) (hm : t.kind ≠ .endMark) :
    Expr.ofTokens w (s ++ t :: rest) = .error (.refused ⟨.leftover, t⟩) := by
  have hop : t.kind.operator? = none := Classical.not_not.1 fun h => ht (isOperator_iff.2 h)
  obtain ⟨e, he, -⟩ := expr_complete rest hs hlen hop
  rw [Expr.ofTokens, he]
  exact if_neg hm

/-- A token where an operand is wanted ends the reading if it is none. -/
theorem ofTokens_misplaced {h : Halt} (hs : Alternates w 0 s) (hlen : s.length % 2 = 0) (ht : t.number w = .error h) :
    Expr.ofTokens w (s ++ t :: rest) = .error h := by
  cases s with
  | nil => rw [List.nil_append, Expr.ofTokens, expr_cons_error ht]
  | cons u s =>
    obtain ⟨n, hn, -, hs⟩ := exists_operand rfl hs
    rw [List.cons_append, Expr.ofTokens, expr_cons hn,
      operations_misplaced hs (by simp only [List.length_cons] at hlen; omega) ht]
    rfl

/-- What a list of tokens comes to, told by its first token that may not stand where it stands. -/
inductive ComesTo (w : Width) : List Token → Except Halt Expr → Prop where
  | exhausted {s : List Token} (hs : Alternates w 0 s) : ComesTo w s (.error .exhausted)
  | expr {s rest : List Token} {t : Token} {e : Expr} (hs : Alternates w 0 s) (hlen : s.length % 2 = 1)
      (ht : t.kind = .endMark) (he : e.yield.map some = s.map (Token.item? w)) : ComesTo w (s ++ t :: rest) (.ok e)
  | leftover {s rest : List Token} {t : Token} (hs : Alternates w 0 s) (hlen : s.length % 2 = 1) (ht : ¬t.IsOperator)
      (hm : t.kind ≠ .endMark) : ComesTo w (s ++ t :: rest) (.error (.refused ⟨.leftover, t⟩))
  | misplaced {s rest : List Token} {t : Token} {h : Halt} (hs : Alternates w 0 s) (hlen : s.length % 2 = 0)
      (ht : t.number w = .error h) : ComesTo w (s ++ t :: rest) (.error h)

/-- Every list of tokens comes to one of the four ends. -/
theorem comesTo_ofTokens (w : Width) (ts : List Token) : ComesTo w ts (Expr.ofTokens w ts) := by
  by_cases hts : Alternates w 0 ts
  · rw [ofTokens_exhausted hts]
    exact .exhausted hts
  obtain ⟨s, t, rest, rfl, hs, ht⟩ := exists_first_misplaced hts
  rw [Nat.zero_add] at ht
  rcases Nat.mod_two_eq_zero_or_one s.length with hlen | hlen
  · rw [mayStandAt_even hlen] at ht
    cases hn : t.number w with
    | ok n => exact absurd (isOperand_iff.2 ⟨n, hn⟩) ht
    | error h =>
      rw [ofTokens_misplaced hs hlen hn]
      exact .misplaced hs hlen hn
  · rw [mayStandAt_odd hlen] at ht
    by_cases hm : t.kind = .endMark
    · obtain ⟨e, he, hyield⟩ := ofTokens_complete rest hs hlen hm
      rw [he]
      exact .expr hs hlen hm hyield
    · rw [ofTokens_leftover hs hlen ht hm]
      exact .leftover hs hlen ht hm

/-- Tokens of operations alternate after an operand. -/
theorem alternates_of_operations {ops : List Operation} (h : (ops.flatMap itemsOf).map some = s.map (Token.item? w)) :
    Alternates w 1 s ∧ s.length % 2 = 0 := by
  induction ops generalizing s with
  | nil =>
    rw [List.map_eq_nil_iff.1 h.symm]
    exact ⟨alternates_nil, rfl⟩
  | cons op ops ih =>
    match s, h with
    | [_], h => exact absurd h (by simp [itemsOf])
    | o :: n :: s, h =>
      simp only [List.flatMap_cons, itemsOf, List.cons_append, List.nil_append, List.map_cons, List.cons.injEq] at h
      obtain ⟨ho, hn, hs⟩ := h
      have hop := item?_eq_operator_iff.1 ho.symm
      have hnum := item?_eq_value_iff.1 hn.symm
      obtain ⟨hs, hlen⟩ := ih hs
      refine ⟨alternates_cons_iff.2 ⟨?_, alternates_cons_iff.2 ⟨?_, (alternates_congr (by omega)).1 hs⟩⟩, ?_⟩
      · exact (mayStandAt_odd rfl).2 (isOperator_iff.2 (by rw [hop]; nofun))
      · exact (mayStandAt_even rfl).2 (isOperand_iff.2 ⟨_, hnum⟩)
      · simp only [List.length_cons]
        omega

/-- Tokens that have the yield of an expression alternate, the last an operand. -/
theorem alternates_of_yield {e : Expr} (h : e.yield.map some = s.map (Token.item? w)) :
    Alternates w 0 s ∧ s.length % 2 = 1 := by
  rw [Expr.yield_eq] at h
  match s, h with
  | n :: s, h =>
    obtain ⟨hn, hs⟩ := List.cons.inj h
    obtain ⟨hs, hlen⟩ := alternates_of_operations hs
    refine ⟨alternates_cons_iff.2 ⟨(mayStandAt_even rfl).2 (isOperand_iff.2 ⟨_, item?_eq_value_iff.1 hn.symm⟩), hs⟩, ?_⟩
    rw [List.length_cons]
    omega

/-- Two expressions with the items of the same tokens as their yield are the same. -/
theorem eq_of_yield_eq {e e' : Expr} (he : e.yield.map some = s.map (Token.item? w))
    (he' : e'.yield.map some = s.map (Token.item? w)) : e' = e :=
  Expr.yield_injective ((List.map_inj_right fun _ _ => Option.some.inj).1 (he'.trans he.symm))

/-- A list of tokens is read as the expression that its tokens before an end mark are the yield of. -/
theorem ofTokens_eq_ok_iff {e : Expr} : Expr.ofTokens w ts = .ok e ↔
    ∃ s m rest, ts = s ++ m :: rest ∧ m.kind = .endMark ∧ e.yield.map some = s.map (Token.item? w) := by
  constructor
  · intro h
    have hts := comesTo_ofTokens w ts
    rw [h] at hts
    cases hts with
    | expr hs hlen hm he => exact ⟨_, _, _, rfl, hm, he⟩
  · rintro ⟨s, m, rest, rfl, hm, he⟩
    obtain ⟨hs, hlen⟩ := alternates_of_yield he
    obtain ⟨e', he', hyield⟩ := ofTokens_complete rest hs hlen hm
    rw [he', eq_of_yield_eq he hyield]

/-- A list of tokens is exhausted exactly if all its tokens alternate. -/
theorem ofTokens_eq_exhausted_iff : Expr.ofTokens w ts = .error .exhausted ↔ Alternates w 0 ts := by
  refine ⟨fun h => ?_, ofTokens_exhausted⟩
  have hts := comesTo_ofTokens w ts
  rw [h] at hts
  cases hts with
  | exhausted hs => exact hs
  | misplaced hs hlen ht =>
    rcases number_eq_error ht with ⟨-, h⟩ | ⟨-, -, h | ⟨n, h⟩ | h⟩ <;> exact absurd h nofun

/-- A list of tokens is read term by term up to an end mark. It is an expression exactly if operands and operators come in turn,
an operand first and last, and then an end mark; the tree is the only one that yields them. The list is exhausted exactly if
operands and operators come in turn to its end. -/
theorem ofTokens_exact (w : Width) (ts : List Token) :
    Expr.ofTokens w ts = (Reading.descent w).upToEnd ts ∧
      ((∃ e, Expr.ofTokens w ts = .ok e) ↔
        ∃ s m rest, ts = s ++ m :: rest ∧ m.kind = .endMark ∧ s.length % 2 = 1 ∧ Alternates w 0 s) ∧
      (∀ e, Expr.ofTokens w ts = .ok e ↔
        ∃ s m rest, ts = s ++ m :: rest ∧ m.kind = .endMark ∧ s.length % 2 = 1 ∧ Alternates w 0 s ∧
          ∀ e', e'.yield.map some = s.map (Token.item? w) ↔ e' = e) ∧
      (Expr.ofTokens w ts = .error .exhausted ↔ Alternates w 0 ts) := by
  refine ⟨ofTokens_eq_descent w ts, ⟨?_, ?_⟩, fun e => ⟨?_, ?_⟩, ofTokens_eq_exhausted_iff⟩
  · rintro ⟨e, he⟩
    obtain ⟨s, m, rest, hts, hm, hyield⟩ := ofTokens_eq_ok_iff.1 he
    obtain ⟨hs, hlen⟩ := alternates_of_yield hyield
    exact ⟨s, m, rest, hts, hm, hlen, hs⟩
  · rintro ⟨s, m, rest, rfl, hm, hlen, hs⟩
    obtain ⟨e, he, -⟩ := ofTokens_complete rest hs hlen hm
    exact ⟨e, he⟩
  · intro he
    obtain ⟨s, m, rest, hts, hm, hyield⟩ := ofTokens_eq_ok_iff.1 he
    obtain ⟨hs, hlen⟩ := alternates_of_yield hyield
    exact ⟨s, m, rest, hts, hm, hlen, hs, fun e' => ⟨eq_of_yield_eq hyield, fun h => h ▸ hyield⟩⟩
  · rintro ⟨s, m, rest, hts, hm, -, -, he⟩
    exact ofTokens_eq_ok_iff.2 ⟨s, m, rest, hts, hm, (he e).2 rfl⟩

end Reckoner
