import Reckoner.Proofs.Reading.Alternation

/-!
# The first error: a reading stops at the first token that leaves no way on

A list of tokens is viable if an accepted list begins with it. A syntax error names the token that ends viability: what
stands before it is viable, and with it no more (`exists_isFirstAt`). Neither is a token taken too many nor is an error found
too late. The parity of its index and the token itself tell what the error says.
-/

namespace Reckoner

/-- Some list that begins with these tokens is an expression. -/
def Viable (w : Width) (ts : List Token) : Prop := ∃ more e, Expr.ofTokens w (ts ++ more) = .ok e

/-- An error is about the token at an index, where viability ends, and says what is wrong with it there. -/
structure SyntaxError.IsFirstAt (e : SyntaxError) (w : Width) (ts : List Token) (k : Nat) : Prop where
  token : ts[k]? = some e.token
  position : e.diagnostic.position = some e.token.position
  viable : Viable w (ts.take k)
  dead : ¬Viable w (ts.take (k + 1))
  unexpected : e.category = "unexpected-token" ↔ k % 2 = 0 ∧ e.token.kind ≠ .number
  format : e.category = "number-format" ↔ k % 2 = 0 ∧ e.token.kind = .number ∧ ∀ n, e.token.literal w ≠ .ok n
  leftover : e.category = "trailing-input" ↔ k % 2 = 1
  wanted : e.wanted? = if e.category = "unexpected-token" then some .number else none
  met : e.met? = if e.category = "number-format" then none else some e.token.kind

/-! ## Going on after a viable list -/

/-- Zero fits every width that some integer fits. -/
theorem isOperand_zero {w : Width} (hw : w.Proper) : Token.IsOperand w ⟨.number, "0", 0⟩ := by
  refine ⟨rfl, 0, ?_⟩
  cases w with
  | unbounded => rfl
  | bits n =>
    have hpos : 0 < Width.bound n := by
      rw [Width.bound, Nat.one_shiftLeft]
      exact Nat.two_pow_pos _
    have hfits : (Width.bits n).Holds 0 := ⟨by omega, Int.ofNat_lt.2 hpos⟩
    have hn : ¬n ≤ 0 := by
      simp only [Width.Proper] at hw
      omega
    have hlit : literal (.bits n) "0".toList = .ok 0 := by
      rw [literal, show Numeral.integer? "0".toList = some 0 by decide]
      simp only [if_neg hn, if_pos hfits]
    rw [Token.literal, hlit]

/-- Operands and operators in turn can be completed: by an end mark, or by an operand and an end mark. -/
theorem viable_of_alternates {w : Width} (hw : w.Proper) {s : List Token} (hs : Alternates w 0 s) : Viable w s := by
  rcases Nat.mod_two_eq_zero_or_one s.length with hlen | hlen
  · have hzero : Alternates w 0 (s ++ [⟨.number, "0", 0⟩]) := by
      refine alternates_append_iff.2 ⟨hs, alternates_cons_iff.2 ⟨?_, alternates_nil⟩⟩
      rw [mayStandAt_even (by omega)]
      exact isOperand_zero hw
    obtain ⟨e, he, -⟩ := ofTokens_complete (t := Token.endOfLine 0) [] hzero
      (by rw [List.length_append, List.length_singleton]; omega) rfl
    rw [List.append_assoc] at he
    exact ⟨_, e, he⟩
  · obtain ⟨e, he, -⟩ := ofTokens_complete (t := Token.endOfLine 0) [] hs hlen rfl
    exact ⟨_, e, he⟩

/-- A list whose reading fails in the same way whatever follows is not viable. -/
theorem not_viable_of_error {w : Width} {ts : List Token} {h : Halt}
    (herr : ∀ more, Expr.ofTokens w (ts ++ more) = .error h) : ¬Viable w ts := by
  rintro ⟨more, e, he⟩
  rw [herr more] at he
  exact absurd he nofun

/-! ## What an error says -/

section

variable {c : SyntaxError.Cause} {t : Token}

/-- Filed under unexpected tokens are the errors where another kind was wanted. -/
theorem category_eq_unexpected_iff :
    (SyntaxError.mk c t).category = "unexpected-token" ↔ ∃ k, c = .unexpected k := by
  cases c <;> simp [SyntaxError.category]

/-- Filed under number formats are the errors about a text that is no integer and about one too wide. -/
theorem category_eq_format_iff :
    (SyntaxError.mk c t).category = "number-format" ↔ c = .malformed ∨ ∃ n, c = .tooWide n := by
  cases c <;> simp [SyntaxError.category]

/-- Filed under trailing input are the errors about a token left over. -/
theorem category_eq_leftover_iff : (SyntaxError.mk c t).category = "trailing-input" ↔ c = .leftover := by
  cases c <;> simp [SyntaxError.category]

end

/-! ## Where a reading stops -/

section

variable {w : Width} {s rest : List Token} {t : Token} {c : SyntaxError.Cause}

/-- An error about the token after operands and operators in turn is the first error if it comes whatever follows and says
what is wrong. -/
theorem isFirstAt_of_alternates (hw : w.Proper) (hs : Alternates w 0 s)
    (herr : ∀ more, Expr.ofTokens w (s ++ t :: more) = .error (.refused ⟨c, t⟩))
    (hunexpected : (∃ k, c = .unexpected k) ↔ s.length % 2 = 0 ∧ t.kind ≠ .number)
    (hformat : (c = .malformed ∨ ∃ n, c = .tooWide n) ↔
      s.length % 2 = 0 ∧ t.kind = .number ∧ ∀ n, t.literal w ≠ .ok n)
    (hleftover : c = .leftover ↔ s.length % 2 = 1) (hwanted : ∀ k, c = .unexpected k → k = .number) :
    SyntaxError.IsFirstAt ⟨c, t⟩ w (s ++ t :: rest) s.length := by
  refine ⟨by simp, rfl, ?_, ?_, category_eq_unexpected_iff.trans hunexpected, category_eq_format_iff.trans hformat,
    category_eq_leftover_iff.trans hleftover, ?_, ?_⟩
  · rw [List.take_left]
    exact viable_of_alternates hw hs
  · rw [List.take_append, List.take_of_length_le (Nat.le_succ _), Nat.add_sub_cancel_left, List.take_one]
    refine not_viable_of_error (h := .refused ⟨c, t⟩) fun more => ?_
    rw [List.append_assoc]
    exact herr more
  · cases c with
    | unexpected k => rw [hwanted k rfl]; rfl
    | _ => rfl
  · cases c <;> rfl

/-- A token that is neither an operator nor an end mark ends viability after an operand. -/
theorem isFirstAt_leftover (hw : w.Proper) (hs : Alternates w 0 s) (hlen : s.length % 2 = 1) (ht : ¬t.IsOperator)
    (hm : t.kind ≠ .endMark) : SyntaxError.IsFirstAt ⟨.leftover, t⟩ w (s ++ t :: rest) s.length := by
  refine isFirstAt_of_alternates hw hs (fun _ => ofTokens_leftover hs hlen ht hm) ?_ ?_ (iff_of_true rfl hlen) nofun
  · exact iff_of_false nofun (by omega)
  · exact iff_of_false nofun (by omega)

/-- A token that is no number ends viability where an operand is wanted. -/
theorem isFirstAt_unexpected (hw : w.Proper) (hs : Alternates w 0 s) (hlen : s.length % 2 = 0) (hk : t.kind ≠ .number)
    (ht : t.number w = .error (.refused ⟨.unexpected .number, t⟩)) :
    SyntaxError.IsFirstAt ⟨.unexpected .number, t⟩ w (s ++ t :: rest) s.length := by
  refine isFirstAt_of_alternates hw hs (fun _ => ofTokens_misplaced hs hlen ht) (iff_of_true ⟨_, rfl⟩ ⟨hlen, hk⟩) ?_ ?_ ?_
  · exact iff_of_false nofun fun h => hk h.2.1
  · exact iff_of_false nofun (by omega)
  · intro k h
    exact (SyntaxError.Cause.unexpected.inj h).symm

/-- A number token that is no literal ends viability where an operand is wanted. -/
theorem isFirstAt_format (hw : w.Proper) (hs : Alternates w 0 s) (hlen : s.length % 2 = 0) (hk : t.kind = .number)
    (hlit : t.literal w = .error (.refused ⟨c, t⟩)) (ht : t.number w = .error (.refused ⟨c, t⟩))
    (hc : c = .malformed ∨ ∃ n, c = .tooWide n) : SyntaxError.IsFirstAt ⟨c, t⟩ w (s ++ t :: rest) s.length := by
  have hnone : ∀ n, t.literal w ≠ .ok n := by
    intro n hn
    rw [hn] at hlit
    exact absurd hlit nofun
  refine isFirstAt_of_alternates hw hs (fun _ => ofTokens_misplaced hs hlen ht) ?_ (iff_of_true hc ⟨hlen, hk, hnone⟩) ?_ ?_
  · rcases hc with rfl | ⟨n, rfl⟩ <;> exact iff_of_false nofun fun h => h.2 hk
  · rcases hc with rfl | ⟨n, rfl⟩ <;> exact iff_of_false nofun (by omega)
  · rcases hc with rfl | ⟨n, rfl⟩ <;> nofun

end

/-- A syntax error is about the first token that ends viability, and says what is wrong with it. -/
theorem exists_isFirstAt {w : Width} (hw : w.Proper) {ts : List Token} {e : SyntaxError}
    (h : Expr.ofTokens w ts = .error (.refused e)) : ∃ k, e.IsFirstAt w ts k := by
  have hts := comesTo_ofTokens w ts
  rw [h] at hts
  cases hts with
  | leftover hs hlen ht hm => exact ⟨_, isFirstAt_leftover hw hs hlen ht hm⟩
  | misplaced hs hlen ht =>
    rcases number_eq_error ht with ⟨hk, he⟩ | ⟨hk, hlit, he | ⟨n, he⟩ | he⟩
    · obtain rfl := Halt.refused.inj he
      exact ⟨_, isFirstAt_unexpected hw hs hlen hk ht⟩
    · obtain rfl := Halt.refused.inj he
      exact ⟨_, isFirstAt_format hw hs hlen hk hlit ht (.inl rfl)⟩
    · obtain rfl := Halt.refused.inj he
      exact ⟨_, isFirstAt_format hw hs hlen hk hlit ht (.inr ⟨n, rfl⟩)⟩
    · exact absurd he nofun

/-- A multiplication where an operand is wanted. -/
theorem isFirstAt_times : (Width.bits 8).Proper ∧
    Expr.ofTokens (.bits 8) [⟨.number, "12", 0⟩, ⟨.plus, "+", 3⟩, ⟨.times, "*", 5⟩, ⟨.number, "7", 6⟩] =
      .error (.refused ⟨.unexpected .number, ⟨.times, "*", 5⟩⟩) ∧
    ∃ k, SyntaxError.IsFirstAt ⟨.unexpected .number, ⟨.times, "*", 5⟩⟩ (.bits 8)
      [⟨.number, "12", 0⟩, ⟨.plus, "+", 3⟩, ⟨.times, "*", 5⟩, ⟨.number, "7", 6⟩] k := by
  have hw : (Width.bits 8).Proper := by decide
  have h : Expr.ofTokens (.bits 8) [⟨.number, "12", 0⟩, ⟨.plus, "+", 3⟩, ⟨.times, "*", 5⟩, ⟨.number, "7", 6⟩] =
      .error (.refused ⟨.unexpected .number, ⟨.times, "*", 5⟩⟩) := by rfl
  exact ⟨hw, h, exists_isFirstAt hw h⟩

end Reckoner
