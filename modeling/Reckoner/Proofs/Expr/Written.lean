import Reckoner.Proofs.Line.Rendering

/-!
# Written forms: no two expressions are written alike

The items of an expression are written with single blanks between, and no item is written with a blank. So the text of an
expression gives its items back, one by one (`Expr.splitOn_render`): a minus sign between two blanks is an operator, and one
that digits follow belongs to a negative integer. As the items tell how they are grouped into terms, the text tells the
expression (`Expr.render_tells_apart`), also where the text cannot be read.
-/

namespace Reckoner

/-- An integer is written with a digit, and no operator is. -/
theorem repr_ne_symbol (n : Int) (o : Operator) : n.repr ≠ o.symbol := by
  intro h
  obtain ⟨c, cs, hdigits⟩ := List.exists_cons_of_ne_nil (Nat.toDigits_ne_nil (b := 10) (n := n.natAbs))
  have hc : c ∈ Nat.toDigits 10 n.natAbs := by
    rw [hdigits]
    exact List.mem_cons_self
  have hmem : c ∈ n.repr.toList := by
    rw [toList_repr]
    exact List.mem_append_right _ hc
  rw [h, toList_symbol, List.mem_singleton] at hmem
  have hdigit := isDigit_of_mem_toDigits _ c hc
  rw [hmem, (sign_excludes (sign_mem o)).2.1] at hdigit
  exact absurd hdigit (by decide)

theorem Operator.symbol_injective {o o' : Operator} (h : o.symbol = o'.symbol) : o = o' := by
  have hsign := congrArg String.toList h
  rw [toList_symbol, toList_symbol] at hsign
  exact sign_injective (List.cons.inj hsign).1

/-- No two items are written alike. -/
theorem Item.text_injective : Function.Injective Item.text := by
  intro x y h
  cases x with
  | value n =>
    cases y with
    | value m => rw [Int.repr_inj.1 h]
    | operator o => exact absurd h (repr_ne_symbol n o)
  | operator o =>
    cases y with
    | value m => exact absurd h.symm (repr_ne_symbol m o)
    | operator o' => rw [Operator.symbol_injective h]

/-- The pieces between the blanks of what an expression is written as are its items, in their order. -/
theorem Expr.splitOn_render (e : Expr) : e.render.toList.splitOn ' ' = e.yield.map fun x => x.text.toList := by
  rw [render_eq_intercalate, String.toList_intercalate, List.map_map]
  refine List.splitOn_intercalate ' ' ?_ ?_
  · intro piece hpiece
    obtain ⟨x, -, rfl⟩ := List.mem_map.1 hpiece
    exact blank_not_mem_text x
  · rw [e.yield_eq]
    simp

/-- What an expression is written as tells the expression. -/
theorem Expr.eq_of_render_eq {e e' : Expr} (h : e.render = e'.render) : e = e' := by
  have hpieces : e.yield.map (fun x => x.text.toList) = e'.yield.map fun x => x.text.toList := by
    rw [← e.splitOn_render, ← e'.splitOn_render, h]
  have hinjective : Function.Injective fun x : Item => x.text.toList :=
    fun _ _ htext => Item.text_injective (String.toList_inj.1 htext)
  exact yield_injective (List.map_injective_iff.2 hinjective hpieces)

/-- Two expressions are written alike exactly if they are the same, whatever their integers. So a term that is taken away is
never written like one that is added, a negative first factor or not, nor is one grouping into terms written like another. -/
theorem Expr.render_tells_apart :
    (∀ e e' : Expr, e.render = e'.render ↔ e = e') ∧
      (∀ (e e' : Expr) (i : Nat) (t u : Term), e.tail[i]? = some (.minus, t) → e'.tail[i]? = some (.plus, u) →
        e.render ≠ e'.render) ∧
      ∀ e e' : Expr, (e.terms.map fun t => t.factors.length) ≠ (e'.terms.map fun t => t.factors.length) →
        e.render ≠ e'.render := by
  refine ⟨fun e e' => ⟨eq_of_render_eq, congrArg render⟩, ?_, ?_⟩
  · intro e e' i t u hminus hplus h
    rw [eq_of_render_eq h, hplus] at hminus
    exact absurd hminus (by simp)
  · intro e e' hgroups h
    rw [eq_of_render_eq h] at hgroups
    exact hgroups rfl

/-- A difference and a sum with a negative integer, and two groupings of the same integers. -/
theorem Expr.render_tells_apart_negative :
    (⟨⟨5, []⟩, [(.minus, ⟨3, []⟩)]⟩ : Expr).render = "5 - 3" ∧
      (⟨⟨5, []⟩, [(.plus, ⟨-3, []⟩)]⟩ : Expr).render = "5 + -3" ∧
      (⟨⟨5, []⟩, [(.minus, ⟨3, []⟩)]⟩ : Expr).render ≠ (⟨⟨5, []⟩, [(.plus, ⟨-3, []⟩)]⟩ : Expr).render ∧
      (⟨⟨2, [-3]⟩, [(.plus, ⟨4, []⟩)]⟩ : Expr).render ≠ (⟨⟨2, []⟩, [(.plus, ⟨-3, [4]⟩)]⟩ : Expr).render := by
  obtain ⟨-, hsigns, hgroups⟩ := render_tells_apart
  refine ⟨by cbv, by cbv, ?_, ?_⟩
  · exact hsigns _ _ 0 ⟨3, []⟩ ⟨-3, []⟩ rfl rfl
  · exact hgroups _ _ (by decide)

end Reckoner
