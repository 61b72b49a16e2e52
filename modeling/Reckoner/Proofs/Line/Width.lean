import Reckoner.Proofs.Line.Stages

/-!
# Widths: a line under a width and under a wider one

A text that is a literal of a number of bits is the same literal under every width that has as many (`literal_wider`). So a list
of tokens comes to the same under both widths, or the narrow one ends it at a literal that is too wide; what stands before that
literal is read under the wide one as well, which can only end the list later (`ofTokens_wider`).
-/

namespace Reckoner

/-- A width has at least a number of bits, or is unbounded. -/
def Width.HasAtLeast (w : Width) (b : Int) : Prop := ∀ n, w = .bits n → b ≤ n

/-- A number token whose integer does not fit a number of bits. -/
def Token.IsTooWide (b : Int) (t : Token) : Prop :=
  t.kind = .number ∧ ∃ v, Numeral.integer? t.text.toList = some v ∧ ¬(Width.bits b).Holds v

/-- An error is about a token of a list that is too wide for a number of bits. -/
structure SyntaxError.IsTooWide (e : SyntaxError) (b : Int) (ts : List Token) : Prop where
  category : e.category = "number-format"
  position : e.diagnostic.position = some e.token.position
  mem : e.token ∈ ts
  token : e.token.IsTooWide b

section

variable {b : Int} {w : Width} {t : Token} {s rest ts : List Token} {x : Item} {e : Expr}

/-! ## Literals -/

/-- The bound of a width grows with its bits. -/
theorem bound_le_bound {n : Int} (h : b ≤ n) : Width.bound b ≤ Width.bound n := by
  rw [Width.bound, Width.bound, Nat.one_shiftLeft, Nat.one_shiftLeft]
  exact Nat.pow_le_pow_right (by decide) (Int.toNat_le_toNat (by omega))

/-- Some integer fits a width that has at least one bit. -/
theorem Width.HasAtLeast.proper (hw : w.HasAtLeast b) (hb : 1 ≤ b) : w.Proper := by
  cases w with
  | unbounded => trivial
  | bits n => exact Int.le_trans hb (hw n rfl)

/-- What fits a number of bits fits a width that has as many. -/
theorem holds_wider (hw : w.HasAtLeast b) {v : Int} (hv : (Width.bits b).Holds v) : w.Holds v := by
  cases w with
  | unbounded => trivial
  | bits n =>
    have hle := bound_le_bound (hw n rfl)
    obtain ⟨hlow, hhigh⟩ := hv
    constructor
    · omega
    · omega

/-- A text comes to the same under a wider width, unless its integer is too wide for the narrow one. -/
theorem literal_wider (hb : 1 ≤ b) (hw : w.HasAtLeast b) (text : List Char) :
    literal w text = literal (.bits b) text ∨
      literal (.bits b) text = .error (.tooWide b) ∧ ∃ v, Numeral.integer? text = some v ∧ ¬(Width.bits b).Holds v := by
  have hpos : ¬b ≤ 0 := by omega
  unfold literal
  cases Numeral.integer? text with
  | none => exact .inl rfl
  | some v =>
    simp only [if_neg hpos]
    by_cases hv : (Width.bits b).Holds v
    · left
      rw [if_pos hv]
      have hv' := holds_wider hw hv
      cases w with
      | unbounded => rfl
      | bits n =>
        have hn := hw n rfl
        have hpos' : ¬n ≤ 0 := by omega
        simp only [if_neg hpos', if_pos hv']
    · right
      rw [if_neg hv]
      exact ⟨rfl, v, rfl, hv⟩

/-- So does a token that has to be a number. -/
theorem number_wider (hb : 1 ≤ b) (hw : w.HasAtLeast b) (t : Token) :
    t.number w = t.number (.bits b) ∨
      t.number (.bits b) = .error (.refused ⟨.tooWide b, t⟩) ∧ t.IsTooWide b := by
  unfold Token.number Token.literal
  by_cases hk : t.kind = .number
  · rw [if_pos hk, if_pos hk]
    rcases literal_wider hb hw t.text.toList with h | ⟨h, hv⟩
    · left
      rw [h]
    · right
      rw [h]
      exact ⟨rfl, hk, hv⟩
  · left
    rw [if_neg hk, if_neg hk]

/-! ## Tokens -/

/-- What a token stands for it stands for under a wider width. -/
theorem item?_wider (hb : 1 ≤ b) (hw : w.HasAtLeast b) (h : t.item? (.bits b) = some x) : t.item? w = some x := by
  cases x with
  | operator o => exact item?_eq_operator_iff.2 (item?_eq_operator_iff.1 h)
  | value n =>
    have hn := item?_eq_value_iff.1 h
    rcases number_wider hb hw t with heq | ⟨herr, -⟩
    · exact item?_eq_value_iff.2 (heq.trans hn)
    · rw [herr] at hn
      cases hn

/-- Operands and operators in turn stay so under a wider width. -/
theorem alternates_wider (hb : 1 ≤ b) (hw : w.HasAtLeast b) {i : Nat} (hs : Alternates (.bits b) i s) : Alternates w i s := by
  intro j t ht
  have hmay := hs j t ht
  unfold Token.MayStandAt at hmay ⊢
  split
  · rename_i heven
    rw [if_pos heven] at hmay
    obtain ⟨n, hn⟩ := isOperand_iff.1 hmay
    exact isOperand_iff.2 ⟨n, item?_eq_value_iff.1 (item?_wider hb hw (item?_eq_value_iff.2 hn))⟩
  · rename_i hodd
    rwa [if_neg hodd] at hmay

/-- Tokens that are the yield of an expression are it under a wider width. -/
theorem yield_wider (hb : 1 ≤ b) (hw : w.HasAtLeast b) (h : e.yield.map some = s.map (Token.item? (.bits b))) :
    e.yield.map some = s.map (Token.item? w) := by
  rw [h]
  refine List.map_congr_left fun t ht => ?_
  obtain ⟨x, -, hx⟩ := List.mem_map.1 (h ▸ List.mem_map_of_mem (f := Token.item? (.bits b)) ht)
  rw [← hx, item?_wider hb hw hx.symm]

/-- A list of tokens comes to the same under a wider width, unless the narrow one ends it at a literal that is too wide for it.
What stands before that literal is read under the wider width as well. -/
theorem ofTokens_wider (hb : 1 ≤ b) (hw : w.HasAtLeast b) (ts : List Token) :
    Expr.ofTokens w ts = Expr.ofTokens (.bits b) ts ∨
      ∃ s t rest, ts = s ++ t :: rest ∧ Alternates w 0 s ∧ t.IsTooWide b ∧
        Expr.ofTokens (.bits b) ts = .error (.refused ⟨.tooWide b, t⟩) := by
  have hts := comesTo_ofTokens (.bits b) ts
  generalize Expr.ofTokens (.bits b) ts = result at hts
  cases hts with
  | exhausted hs => exact .inl (ofTokens_exhausted (alternates_wider hb hw hs))
  | expr hs hlen ht he => exact .inl (ofTokens_eq_ok_iff.2 ⟨_, _, _, rfl, ht, yield_wider hb hw he⟩)
  | leftover hs hlen ht hm => exact .inl (ofTokens_leftover (alternates_wider hb hw hs) hlen ht hm)
  | @misplaced s rest t x hs hlen ht =>
    have hs' := alternates_wider hb hw hs
    rcases number_wider hb hw t with heq | ⟨herr, hwide⟩
    · exact .inl (ofTokens_misplaced hs' hlen (heq.trans ht))
    · obtain rfl := Except.error.inj (herr.symm.trans ht)
      exact .inr ⟨s, t, rest, rfl, hs', hwide, rfl⟩

/-- A list is refused for its first token that may not stand where it stands. -/
theorem exists_misplaced {se : SyntaxError} (h : Expr.ofTokens w ts = .error (.refused se)) :
    ∃ s rest, ts = s ++ se.token :: rest ∧ Alternates w 0 s ∧ ¬se.token.MayStandAt w s.length := by
  have hts := comesTo_ofTokens w ts
  rw [h] at hts
  cases hts with
  | leftover hs hlen ht hm => exact ⟨_, _, rfl, hs, fun hmay => ht ((mayStandAt_odd hlen).1 hmay)⟩
  | @misplaced s rest t _ hs hlen ht =>
    have hmay : ¬t.MayStandAt w s.length := by
      rw [mayStandAt_even hlen, isOperand_iff, ht]
      rintro ⟨n, hn⟩
      cases hn
    rcases number_eq_error ht with ⟨-, he⟩ | ⟨-, -, he | ⟨n, he⟩ | he⟩
    · obtain rfl := Halt.refused.inj he
      exact ⟨s, rest, rfl, hs, hmay⟩
    · obtain rfl := Halt.refused.inj he
      exact ⟨s, rest, rfl, hs, hmay⟩
    · obtain rfl := Halt.refused.inj he
      exact ⟨s, rest, rfl, hs, hmay⟩
    · cases he

/-- A list is not refused for one of the operands and operators in turn that it begins with. -/
theorem mem_of_refused {se : SyntaxError} (hs : Alternates w 0 s)
    (h : Expr.ofTokens w (s ++ ts) = .error (.refused se)) : se.token ∈ ts := by
  obtain ⟨s', rest, heq, -, hmay⟩ := exists_misplaced h
  rcases List.append_eq_append_iff.1 heq with ⟨m, -, rfl⟩ | ⟨m, rfl, hm⟩
  · exact List.mem_append_right _ List.mem_cons_self
  · cases m with
    | nil =>
      rw [List.nil_append] at hm
      rw [← hm]
      exact List.mem_cons_self
    | cons u m =>
      obtain ⟨rfl, -⟩ := List.cons.inj hm
      obtain ⟨-, hu⟩ := alternates_append_iff.1 hs
      rw [Nat.zero_add] at hu
      exact absurd (alternates_cons_iff.1 hu).1 hmay

end

/-! ## Lines -/

section

variable {b : Int} {w : Width} {source : String} {s rest : List Token} {t : Token} {r : Line.Evaluation}

/-- A line that has a value has the same under a wider width. -/
theorem evaluate_wider_of_ok (hb : 1 ≤ b) (hw : w.HasAtLeast b) (h : Line.evaluate (.bits b) source = .ok r) :
    Line.evaluate w source = .ok r := by
  obtain ⟨us, e, hus, hyield, rfl⟩ := evaluate_eq_ok_iff.1 h
  exact evaluate_eq_ok_iff.2 ⟨us, e, hus, yield_wider hb hw hyield, rfl⟩

/-- A line that begins with operands and operators in turn has a value, or is refused no earlier than after them. -/
theorem refused_after (hw : w.Proper) (hscan : scan source = .ok (s ++ t :: rest)) (hs : Alternates w 0 s) :
    (∃ r, Line.evaluate w source = .ok r) ∨
      ∃ e p, Line.evaluate w source = .error (.reading (.refused e)) ∧ e.diagnostic.position = some p ∧ t.position ≤ p := by
  obtain ⟨us, hus, hlays⟩ := scan_eq_ok_iff.1 hscan
  cases hread : Expr.ofTokens w (s ++ t :: rest) with
  | ok e => exact .inl ⟨_, evaluate_of_expr hscan hread⟩
  | error h =>
    obtain ⟨e, rfl, -, -⟩ := exists_refused hw rfl (hus ▸ hread)
    refine .inr ⟨e, _, evaluate_of_halt hscan hread, rfl, ?_⟩
    have hmem : e.token ∈ t :: rest := mem_of_refused hs hread
    have hordered := (isTokenization_iff.2 ⟨us, hus, hlays⟩).ordered
    obtain ⟨-, hordered, -⟩ := List.pairwise_append.1 hordered
    rcases List.mem_cons.1 hmem with heq | hrest
    · rw [heq]
    · exact (List.rel_of_pairwise_cons hordered hrest).1.le

end

/-- A line comes to the same under a width that has at least a number of bits as under that number of bits, unless these end it
at a literal that is too wide for them; then the wider width gives the line a value, or ends it no earlier with a syntax
error. A line that has a value under the number of bits has the same under the wider width. -/
theorem evaluate_wider {b : Int} (hb : 1 ≤ b) {w : Width} (hw : w.HasAtLeast b) (source : String) :
    (Line.evaluate w source = Line.evaluate (.bits b) source ∨
        ∃ ts e, scan source = .ok ts ∧ Line.evaluate (.bits b) source = .error (.reading (.refused e)) ∧ e.IsTooWide b ts ∧
          ((∃ r, Line.evaluate w source = .ok r) ∨
            ∃ e' p, Line.evaluate w source = .error (.reading (.refused e')) ∧ e'.diagnostic.position = some p ∧
              e.token.position ≤ p)) ∧
      ∀ r, Line.evaluate (.bits b) source = .ok r → Line.evaluate w source = .ok r := by
  refine ⟨?_, fun r hr => evaluate_wider_of_ok hb hw hr⟩
  cases hscan : scan source with
  | error se =>
    left
    rw [evaluate_of_scan_error hscan, evaluate_of_scan_error hscan]
  | ok ts =>
    rcases ofTokens_wider hb hw ts with heq | ⟨s, t, rest, rfl, hs, hwide, hrefused⟩
    · left
      rw [Line.evaluate, Line.evaluate, Line.run, Line.run, hscan]
      simp only [heq]
    · right
      have hmem : t ∈ s ++ t :: rest := List.mem_append_right _ List.mem_cons_self
      exact ⟨_, ⟨.tooWide b, t⟩, rfl, evaluate_of_halt hscan hrefused, ⟨rfl, rfl, hmem, hwide⟩,
        refused_after (hw.proper hb) hscan hs⟩

/-- A literal that is too wide for eight bits before one that is too wide for sixteen as well. -/
theorem evaluate_wider_sixteen :
    (1 : Int) ≤ 8 ∧ (Width.bits 16).HasAtLeast 8 ∧ Line.value (.bits 8) "100*1" = .ok 100 ∧
      Line.value (.bits 16) "100*1" = .ok 100 ∧
      Line.evaluate (.bits 8) "7 + 300*70000" = .error (.reading (.refused ⟨.tooWide 8, ⟨.number, "300", 4⟩⟩)) ∧
      Line.evaluate (.bits 16) "7 + 300*70000" = .error (.reading (.refused ⟨.tooWide 16, ⟨.number, "70000", 8⟩⟩)) ∧
      ∃ ts, scan "7 + 300*70000" = .ok ts ∧ SyntaxError.IsTooWide ⟨.tooWide 8, ⟨.number, "300", 4⟩⟩ 8 ts := by
  have hb : (1 : Int) ≤ 8 := by decide
  have hw : (Width.bits 16).HasAtLeast 8 := by
    intro n hn
    obtain rfl := Width.bits.inj hn
    decide
  have hnarrow : Line.evaluate (.bits 8) "7 + 300*70000" = .error (.reading (.refused ⟨.tooWide 8, ⟨.number, "300", 4⟩⟩)) := by
    decide +kernel
  have hwide : Line.evaluate (.bits 16) "7 + 300*70000" =
      .error (.reading (.refused ⟨.tooWide 16, ⟨.number, "70000", 8⟩⟩)) := by
    decide +kernel
  have hvalue : Line.evaluate (.bits 8) "100*1" =
      .ok ⟨[⟨.number, "100", 0⟩, ⟨.times, "*", 3⟩, ⟨.number, "1", 4⟩, Token.endOfLine 5], ⟨⟨100, [1]⟩, []⟩, 100⟩ := by
    decide +kernel
  have hsame := (evaluate_wider hb hw "100*1").2 _ hvalue
  refine ⟨hb, hw, by rw [Line.value, hvalue]; rfl, by rw [Line.value, hsame]; rfl, hnarrow, hwide, ?_⟩
  rcases (evaluate_wider hb hw "7 + 300*70000").1 with heq | ⟨ts, e, hts, he, hwide', -⟩
  · rw [hnarrow, hwide] at heq
    exact absurd heq (by decide)
  · rw [hnarrow] at he
    cases he
    exact ⟨ts, hts, hwide'⟩

end Reckoner
