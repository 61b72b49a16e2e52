import Reckoner.Proofs.Line.Grammar
import Reckoner.Proofs.Scan.Border

/-!
# Spellings: the items that a text spells out

A text spells out the items that its tokens stand for, one for each token, and `none` for a token that stands for no item
(`Spells`). Positions do not count, so a text spells the same wherever it stands, and two texts that meet at a border spell
what the first spells and then what the second does (`spells_append_iff`). A line is read as an expression exactly if it
spells the yield of the expression (`parse_eq_ok_iff`).
-/

namespace Reckoner

/-- The tokens of a text stand for these items. -/
def Spells (w : Width) (cs : List Char) (xs : List (Option Item)) : Prop :=
  ∃ us, LaysOut 0 cs us ∧ us.map (Token.item? w) = xs

section

variable {w : Width} {k : Token.Kind} {l u v cs : List Char} {xs ys zs : List (Option Item)}

/-! ## What a token stands for -/

/-- Whether the text of a number token is a literal does not depend on its position. -/
theorem toOption_literal (w : Width) (t : Token) : (t.literal w).toOption = (literal w t.text.toList).toOption := by
  rw [Token.literal]
  split <;> rename_i h <;> rw [h] <;> rfl

/-- A number token stands for the literal that its text is. -/
theorem item?_of_number {t : Token} (h : t.kind = .number) :
    t.item? w = (literal w t.text.toList).toOption.map .value := by
  simp only [Token.item?, h, toOption_literal]

/-- The position of a token does not count. -/
theorem item?_moved (w : Width) (n : Nat) (t : Token) : (t.moved n).item? w = t.item? w := by
  rw [Token.item?, Token.item?, toOption_literal, toOption_literal]
  rfl

/-! ## Texts and their spellings -/

/-- A text has one list of tokens at most. -/
theorem LaysOut.unique {i : Nat} {us vs : List Token} (h : LaysOut i cs us) (h' : LaysOut i cs vs) : us = vs := by
  have hus := scanFrom_eq_ok_iff.2 ⟨us, rfl, h⟩
  have hvs := scanFrom_eq_ok_iff.2 ⟨vs, rfl, h'⟩
  exact List.append_cancel_right (Except.ok.inj (hus.symm.trans hvs))

/-- A text spells one list of items. -/
theorem Spells.unique (h : Spells w cs xs) (h' : Spells w cs ys) : xs = ys := by
  obtain ⟨us, hus, rfl⟩ := h
  obtain ⟨vs, hvs, rfl⟩ := h'
  rw [hus.unique hvs]

theorem spells_nil : Spells w [] [] := ⟨[], laysOut_nil_iff.2 rfl, rfl⟩

/-- A blank spells nothing. -/
theorem spells_blank {c : Char} (h : isBlank c = true) : Spells w [c] [] :=
  ⟨[], (laysOut_blank_iff h).2 (laysOut_nil_iff.2 rfl), rfl⟩

/-- A lexeme spells what its token stands for. -/
theorem spells_lexeme (h : Lexeme k l) : Spells w l [(lexemeToken k l 0).item? w] := by
  have hstop : k.StopsAt [] := fun _ hc => by cases hc
  have hl : LaysOut 0 (l ++ []) [lexemeToken k l 0] := (laysOut_lexeme_iff h hstop).2 ⟨[], rfl, laysOut_nil_iff.2 rfl⟩
  rw [List.append_nil] at hl
  exact ⟨_, hl, rfl⟩

theorem toList_symbol (o : Operator) : o.symbol.toList = [o.sign] := by
  rcases o with ⟨_ | _⟩ | _ <;> rfl

theorem divides_sign (o : Operator) : Divides o.sign := .inr (sign_mem o)

/-- A sign spells its operator. -/
theorem spells_sign (o : Operator) : Spells w [o.sign] [some (.operator o)] := by
  have h := spells_lexeme (w := w) (lexeme_operator_iff (o := o).2 rfl)
  rwa [item?_sign] at h

/-- Two texts that meet at a border spell what the first spells and then what the second spells. -/
theorem spells_append_iff (h : Border u v) :
    Spells w (u ++ v) zs ↔ ∃ xs ys, zs = xs ++ ys ∧ Spells w u xs ∧ Spells w v ys :=
  exists_map_laysOut_append_iff (item?_moved w) h

/-- Two texts with a blank or a sign between them spell what the first spells, the operator if it is a sign, and what the second
spells. -/
theorem spells_divided_iff {c : Char} {os : List (Option Item)} (hc : Divides c) (hos : Spells w [c] os) :
    Spells w (u ++ c :: v) zs ↔ ∃ xs ys, zs = xs ++ (os ++ ys) ∧ Spells w u xs ∧ Spells w v ys := by
  have hafter : Border [c] v := hc.border_after (u := [])
  rw [spells_append_iff hc.border_before]
  constructor
  · rintro ⟨xs, _, rfl, hu, hcv⟩
    obtain ⟨os', ys, rfl, hos', hv⟩ := (spells_append_iff (u := [c]) hafter).1 hcv
    obtain rfl := hos'.unique hos
    exact ⟨xs, ys, rfl, hu, hv⟩
  · rintro ⟨xs, ys, rfl, hu, hv⟩
    exact ⟨xs, os ++ ys, rfl, hu, (spells_append_iff (u := [c]) hafter).2 ⟨os, ys, rfl, hos, hv⟩⟩

end

/-! ## Lines -/

section

variable {w : Width} {line : String} {e : Expr} {r : Line.Evaluation}

/-- What is taken from the outcome of a line is taken from what the line comes to. -/
theorem exists_of_map_evaluate {α : Type} {f : Line.Evaluation → α} {a : α} (h : (Line.evaluate w line).map f = .ok a) :
    ∃ r, Line.evaluate w line = .ok r ∧ f r = a := by
  cases hr : Line.evaluate w line with
  | error _ =>
    rw [hr] at h
    cases h
  | ok r =>
    rw [hr] at h
    exact ⟨r, rfl, Except.ok.inj h⟩

/-- The expression and the value of a line that comes to something. -/
theorem parse_of_evaluate (h : Line.evaluate w line = .ok r) : Line.parse w line = .ok r.expr ∧ r.value = r.expr.value := by
  obtain ⟨_, e, -, -, rfl⟩ := evaluate_eq_ok_iff.1 h
  rw [Line.parse, h]
  exact ⟨rfl, rfl⟩

/-- A line that is read as an expression comes to its value. -/
theorem value_of_parse (h : Line.parse w line = .ok e) : Line.value w line = .ok e.value := by
  obtain ⟨r, hr, rfl⟩ := exists_of_map_evaluate h
  rw [Line.value, hr, ← (parse_of_evaluate hr).2]
  rfl

/-- A line comes to a value exactly if it is read as an expression. -/
theorem exists_value_iff : (∃ v, Line.value w line = .ok v) ↔ ∃ e, Line.parse w line = .ok e := by
  constructor
  · rintro ⟨v, hv⟩
    obtain ⟨r, hr, -⟩ := exists_of_map_evaluate hv
    exact ⟨r.expr, (parse_of_evaluate hr).1⟩
  · rintro ⟨e, he⟩
    exact ⟨e.value, value_of_parse he⟩

/-- A line is read as an expression exactly if it spells the yield of the expression. -/
theorem parse_eq_ok_iff : Line.parse w line = .ok e ↔ Spells w line.toList (e.yield.map some) := by
  constructor
  · intro h
    obtain ⟨r, hr, rfl⟩ := exists_of_map_evaluate h
    obtain ⟨us, e, hus, hyield, rfl⟩ := evaluate_eq_ok_iff.1 hr
    exact ⟨us, hus, hyield.symm⟩
  · rintro ⟨us, hus, hyield⟩
    rw [Line.parse, evaluate_eq_ok_iff.2 ⟨us, e, hus, hyield.symm, rfl⟩]
    rfl

end

end Reckoner
