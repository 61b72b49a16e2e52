import Reckoner.Proofs.Expr.Outline
import Reckoner.Proofs.Expr.Value

/-!
# Branches: the terms of an expression as its outline shows them

The outline of an expression has a branch for each term, with the sign before it and the value of the term at its end, and
below it the factors. What the labels of the branches add, as they are written (`LabelAdds`), comes to the value of the
expression (`Expr.value_eq_sum_branches`). There is an outline only where all that it shows can be written out, so an expression
may have a value and no branches that show it (`Expr.no_outline_of_long_terms`).
-/

namespace Reckoner

/-- The label of an outline. -/
def Layout.Outline.label : Layout.Outline → String
  | .node label _ => label

/-- The outlines below the label of an outline. -/
def Layout.Outline.children : Layout.Outline → List Layout.Outline
  | .node _ children => children

/-- The labels of the outlines below an outline. -/
def Layout.Outline.childLabels (o : Layout.Outline) : List String := o.children.map label

/-- What a label adds: the integer that it ends with after an equals sign; that integer is taken away if the label begins with
a minus sign and a blank. -/
def LabelAdds (label : String) (n : Int) : Prop :=
  ∃ before v, label = before ++ " = " ++ Int.repr v ∧
    ("- ".toList <+: label.toList ∧ n = -v ∨ ¬"- ".toList <+: label.toList ∧ n = v)

/-- What a branch comes to: its term with the weight of the sign before it. -/
def branchValue (b : Option Sign × Term) : Int := b.1.elim 1 Sign.weight * b.2.value

section

variable {label : String} {n m : Int} {b : Option Sign × Term}

/-! ## Labels -/

/-- An integer is written without blanks, from either end. -/
theorem ne_blank_of_mem_reverse_repr (n : Int) : ∀ c ∈ n.repr.toList.reverse, (c != ' ') = true := by
  intro c hc
  rw [bne_iff_ne]
  rintro rfl
  exact blank_not_mem_text (.value n) (List.mem_reverse.1 hc)

/-- An integer at the end of a text, after an equals sign, is told by the text: from the end on, its characters are those up to
the first blank. -/
theorem eq_of_append_repr {before before' : String} (h : before ++ " = " ++ n.repr = before' ++ " = " ++ m.repr) :
    n = m := by
  have hreverse : n.repr.toList.reverse ++ ' ' :: (before.toList ++ [' ', '=']).reverse =
      m.repr.toList.reverse ++ ' ' :: (before'.toList ++ [' ', '=']).reverse := by
    have hlist := congrArg (fun s : String => s.toList.reverse) h
    simpa [String.toList_append] using hlist
  obtain ⟨hrepr, -⟩ := run_unique (ne_blank_of_mem_reverse_repr n) (ne_blank_of_mem_reverse_repr m) (by simp) (by simp)
    hreverse
  exact Int.repr_inj.1 (String.toList_inj.1 (List.reverse_inj.1 hrepr))

/-- A label adds one integer. -/
theorem LabelAdds.unique (h : LabelAdds label n) (h' : LabelAdds label m) : n = m := by
  obtain ⟨before, v, hlabel, hn⟩ := h
  obtain ⟨before', v', hlabel', hm⟩ := h'
  obtain rfl := eq_of_append_repr (hlabel.symm.trans hlabel')
  rcases hn with ⟨hminus, rfl⟩ | ⟨hplain, rfl⟩
  · rcases hm with ⟨-, rfl⟩ | ⟨hplain, -⟩
    · rfl
    · exact absurd hminus hplain
  · rcases hm with ⟨hminus, -⟩ | ⟨-, rfl⟩
    · exact absurd hminus hplain
    · rfl

/-- The label of a term begins with a minus sign and a blank exactly if the minus sign stands before the term. -/
theorem minus_isPrefix_branchText_iff : "- ".toList <+: (branchText b).toList ↔ b.1 = some .minus := by
  obtain ⟨_ | _ | _, t⟩ := b <;> simp [branchText, signText, Sign.symbol]

/-- The label of a term adds what the branch comes to. -/
theorem labelAdds_branchText (b : Option Sign × Term) : LabelAdds (branchText b) (branchValue b) := by
  refine ⟨_, b.2.value, rfl, ?_⟩
  rw [minus_isPrefix_branchText_iff]
  obtain ⟨_ | _ | _, t⟩ := b <;> simp [branchValue, Sign.weight]

/-- Labels of branches add what the branches come to, and nothing else. -/
theorem forall₂_labelAdds_iff (bs : List (Option Sign × Term)) (ns : List Int) :
    List.Forall₂ LabelAdds (bs.map branchText) ns ↔ ns = bs.map branchValue := by
  have hlabels : List.Forall₂ LabelAdds (bs.map branchText) (bs.map branchValue) := by
    rw [List.forall₂_map_left_iff, List.forall₂_map_right_iff, List.forall₂_same]
    intro b _
    exact labelAdds_branchText b
  constructor
  · intro h
    exact List.right_unique_forall₂' (fun _ _ _ h₁ h₂ => h₁.unique h₂) h hlabels
  · rintro rfl
    exact hlabels

end

/-! ## Branches -/

/-- The branches of an expression come to its value together. -/
theorem Expr.sum_branchValue (e : Expr) : (e.branches.map branchValue).sum = e.value := by
  have htail : (e.tail.map fun st => (some st.1, st.2)).map branchValue = e.tail.map summand := by
    rw [List.map_map]
    rfl
  have hhead : branchValue (none, e.head) = e.head.value := Int.one_mul _
  rw [e.branches_eq, List.map_cons, List.sum_cons, htail, hhead, e.value_eq_sum]

/-- The branches of an outline are labelled with the terms of the expression, and the factors of each term stand below it. -/
theorem Expr.outline_of_eq_some {e : Expr} {o : Layout.Outline} (h : e.outline? = some o) :
    o.label = "expr: " ++ e.render ∧ o.childLabels = e.branches.map branchText ∧
      o.children.map Layout.Outline.childLabels = e.terms.map (fun t => t.factors.map Int.repr) := by
  obtain ⟨-, rfl⟩ := (givesWhere_outline e o).1 h
  refine ⟨rfl, ?_, ?_⟩
  · rw [Layout.Outline.childLabels, Layout.Outline.children, List.map_map]
    rfl
  · rw [← e.map_branches_snd, Layout.Outline.children, List.map_map, List.map_map]
    refine List.map_congr_left fun b _ => ?_
    simp [branchOutline, Layout.Outline.childLabels, Layout.Outline.children, Layout.Outline.label]

/-- An expression comes to the sum of its branches, each term being the product of its factors, and every term has a branch with
its own sign. There is an outline exactly if all integers of the expression and the values of all its terms can be written out.
It shows the branches: what their labels add, as they are written, is what the branches come to, and the factors of each term
stand below it. So the terms after the first may change places with their signs, and so may the factors of each term. -/
theorem Expr.value_eq_sum_branches (e : Expr) :
    (∀ t ∈ e.terms, t.value = t.factors.prod) ∧
      e.value = (e.branches.map branchValue).sum ∧
      e.branches = (none, e.head) :: e.tail.map (fun st => (some st.1, st.2)) ∧
      ((∃ o, e.outline? = some o) ↔ (∀ n ∈ e.leaves, Numeral.Writable n) ∧ ∀ t ∈ e.terms, Numeral.Writable t.value) ∧
      (∀ o, e.outline? = some o →
        o.label = "expr: " ++ e.render ∧
          (∀ ns, List.Forall₂ LabelAdds o.childLabels ns ↔ ns = e.branches.map branchValue) ∧
          o.children.map Layout.Outline.childLabels = e.terms.map (fun t => t.factors.map Int.repr)) ∧
      (∀ tail, tail.Perm e.tail → (⟨e.head, tail⟩ : Expr).value = e.value) ∧
      ∀ e' : Expr, e'.head.factors.Perm e.head.factors →
        List.Forall₂ (fun st' st => st'.1 = st.1 ∧ st'.2.factors.Perm st.2.factors) e'.tail e.tail → e'.value = e.value := by
  refine ⟨fun t _ => t.value_eq_prod, e.sum_branchValue.symm, e.branches_eq, givesWhere_outline.exists_iff, fun o ho => ?_,
    fun tail h => value_of_perm h, fun e' hhead htail => value_of_factors_perm hhead htail⟩
  obtain ⟨hlabel, hlabels, hfactors⟩ := outline_of_eq_some ho
  refine ⟨hlabel, fun ns => ?_, hfactors⟩
  rw [hlabels]
  exact forall₂_labelAdds_iff e.branches ns

/-- A difference with a negative factor, the labels of its outline, and the same terms in other orders. -/
theorem Expr.value_eq_sum_branches_difference :
    (⟨⟨7, []⟩, [(.minus, ⟨2, [-3]⟩), (.plus, ⟨4, []⟩)]⟩ : Expr).value = 17 ∧
      (∃ o, (⟨⟨7, []⟩, [(.minus, ⟨2, [-3]⟩), (.plus, ⟨4, []⟩)]⟩ : Expr).outline? = some o ∧
        o.childLabels = ["term: 7 = 7", "- term: 2 * -3 = -6", "+ term: 4 = 4"]) ∧
      List.Forall₂ LabelAdds ["term: 7 = 7", "- term: 2 * -3 = -6", "+ term: 4 = 4"] [7, 6, 4] ∧
      (⟨⟨7, []⟩, [(.plus, ⟨4, []⟩), (.minus, ⟨2, [-3]⟩)]⟩ : Expr).value = 17 ∧
      (⟨⟨7, []⟩, [(.minus, ⟨-3, [2]⟩), (.plus, ⟨4, []⟩)]⟩ : Expr).value = 17 := by
  obtain ⟨-, hvalue, -, hexists, houtline, hterms, hfactors⟩ :=
    value_eq_sum_branches ⟨⟨7, []⟩, [(.minus, ⟨2, [-3]⟩), (.plus, ⟨4, []⟩)]⟩
  obtain ⟨o, ho⟩ := hexists.2 (by decide +kernel)
  obtain ⟨-, hlabels, -⟩ := outline_of_eq_some ho
  have hshown : o.childLabels = ["term: 7 = 7", "- term: 2 * -3 = -6", "+ term: 4 = 4"] := hlabels.trans (by decide +kernel)
  obtain ⟨-, hadds, -⟩ := houtline o ho
  rw [hshown] at hadds
  refine ⟨hvalue, ⟨o, ho, hshown⟩, (hadds _).2 rfl, hterms _ (List.Perm.swap _ _ _), hfactors _ (List.Perm.refl _) ?_⟩
  exact .cons ⟨rfl, List.Perm.swap _ _ _⟩ (.cons ⟨rfl, List.Perm.refl _⟩ .nil)

/-- The difference of a product of 478 literals and itself is what a line is read as, and it comes to 0; but it has no outline,
since its terms are too long to be written out. So it is not true of every expression that its outline shows its branches. -/
theorem Expr.no_outline_of_long_terms :
    Line.parse (.bits 32) (⟨.power 1000000000 477, [(.minus, .power 1000000000 477)]⟩ : Expr).render =
        .ok ⟨.power 1000000000 477, [(.minus, .power 1000000000 477)]⟩ ∧
      (⟨.power 1000000000 477, [(.minus, .power 1000000000 477)]⟩ : Expr).value = 0 ∧
      (⟨.power 1000000000 477, [(.minus, .power 1000000000 477)]⟩ : Expr).outline? = none ∧
      ¬∀ e : Expr, ∃ o, e.outline? = some o ∧ List.Forall₂ LabelAdds o.childLabels (e.branches.map branchValue) := by
  have hnone : (⟨.power 1000000000 477, [(.minus, .power 1000000000 477)]⟩ : Expr).outline? = none :=
    givesWhere_outline.eq_none fun h => not_writable_power (h.2 _ List.mem_cons_self)
  have hlegible : ∀ n ∈ (⟨.power 1000000000 477, [(.minus, .power 1000000000 477)]⟩ : Expr).leaves,
      Numeral.Writable n ∧ Legible (.bits 32) n := by decide +kernel
  refine ⟨parse_render_of_legible (w := .bits 32) (show (1 : Int) ≤ 32 by decide) hlegible, Int.sub_self _, hnone, fun h => ?_⟩
  obtain ⟨o, ho, -⟩ := h ⟨.power 1000000000 477, [(.minus, .power 1000000000 477)]⟩
  rw [hnone] at ho
  cases ho

end Reckoner
