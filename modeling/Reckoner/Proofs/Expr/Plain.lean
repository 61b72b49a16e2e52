import Reckoner.Expr.Plain
import Reckoner.Proofs.Plain.Integer

/-!
# Expressions through plain values

An expression is read from exactly those plain values that stand for it (`Expr.reads_expr`): records of a first part and, where
there are any, a list of further parts, each integer in any of its forms. What an expression is written as stands for that
expression (`Expr.isExpr_toPlain`). So it is read back, and what has once been read is read again from what it is written as
(`Expr.ofPlain_toPlain_exact`).
-/

namespace Reckoner

/-! ## Records of a first part and a list of further parts -/

namespace Plain

variable {α β : Type} {form : Plain → α → Prop} {further : Plain → β → Prop} {check : Plain → Check α}
  {checkFurther : Plain → Check β} {name : String} {fields : List (String × Plain)} {x : α} {xs : List α}
  {ys : List β}

/-- A list stands under a name of a record, item by item in a given form; or nothing stands there and the list is empty. -/
def ListUnder (form : Plain → α → Prop) (name : String) (fields : List (String × Plain)) (xs : List α) : Prop :=
  (field? name fields = none ∧ xs = []) ∨ ∃ ps, field? name fields = some (.list ps) ∧ List.Forall₂ form ps xs

/-- The fields of a record hold a first part under a name, and the further parts as a list under `tail`. -/
def PartsUnder (form : Plain → α → Prop) (name : String) (further : Plain → β → Prop) (fields : List (String × Plain)) (x : α)
    (ys : List β) : Prop :=
  (∃ q, field? name fields = some q ∧ form q x) ∧ ListUnder further "tail" fields ys

/-- A list that may be absent is read from what stands under its name. -/
theorem optional_listOf_eq_ok_iff (h : Check.Reads check form) :
    Check.optional (listOf check) [] name fields = .ok xs ↔ ListUnder form name fields xs := by
  rw [Check.optional_eq_ok_iff, ListUnder]
  refine or_congr_right ⟨?_, ?_⟩
  · rintro ⟨p, hp, hlist⟩
    obtain ⟨ps, hps, hitems⟩ := Check.bind_eq_ok_iff.1 hlist
    obtain rfl := asList_eq_ok_iff.1 hps
    exact ⟨ps, hp, h.items_eq_ok_iff.1 hitems⟩
  · rintro ⟨ps, hp, hps⟩
    exact ⟨.list ps, hp, h.items_eq_ok_iff.2 hps⟩

/-- A record of a first part and further ones passes its check exactly if its parts are of their forms. -/
theorem parts_eq_ok_iff (h : Check.Reads check form) (hfurther : Check.Reads checkFurther further) :
    Check.both (Check.required check name fields) (Check.optional (listOf checkFurther) [] "tail" fields) = .ok (x, ys) ↔
      PartsUnder form name further fields x ys := by
  rw [Check.both_eq_ok_iff, Check.required_eq_ok_iff, optional_listOf_eq_ok_iff hfurther, PartsUnder]
  simp only [h _ x]

/-- Parts that are written one by one are held by the record that they are written into. -/
theorem partsUnder_map {write : β → Plain} {q : Plain} (hx : form q x) (hys : ∀ y, further (write y) y) (hname : name ≠ "tail") :
    PartsUnder form name further [(name, q), ("tail", .list (ys.map write))] x ys := by
  refine ⟨⟨q, by simp [field?_cons], hx⟩, .inr ⟨ys.map write, by simp [field?_cons, hname], ?_⟩⟩
  exact List.forall₂_map_left_iff.2 (List.forall₂_same.2 fun y _ => hys y)

/-! ## Plain values that stand for expressions -/

/-- A plain value stands for a term. -/
def IsTerm (p : Plain) (t : Term) : Prop :=
  ∃ fields, p = .record fields ∧ PartsUnder IsInteger "value" IsInteger fields t.head t.tail

/-- A plain value stands for a sign and the term that it joins. -/
def IsJoint (p : Plain) (st : Sign × Term) : Prop := ∃ q, p = .list [st.1.toPlain, q] ∧ q.IsTerm st.2

/-- A plain value stands for an expression. -/
def IsExpr (p : Plain) (e : Expr) : Prop :=
  ∃ fields, p = .record fields ∧ PartsUnder IsTerm "term" IsJoint fields e.head e.tail

end Plain

/-- A term is read from what stands for it. -/
theorem Term.reads_term : Check.Reads Term.ofPlain Plain.IsTerm := by
  intro p t
  constructor
  · intro h
    cases p with
    | record fields =>
      obtain ⟨⟨head, tail⟩, hparts, rfl⟩ := Check.map_eq_ok_iff.1 h
      exact ⟨fields, rfl, (Plain.parts_eq_ok_iff Plain.reads_integer Plain.reads_integer).1 hparts⟩
    | _ => exact absurd h Check.fail_ne_ok
  · rintro ⟨fields, rfl, h⟩
    have hparts := (Plain.parts_eq_ok_iff Plain.reads_integer Plain.reads_integer).2 h
    exact Check.map_eq_ok_iff.2 ⟨(t.head, t.tail), hparts, rfl⟩

/-- A sign is read from its symbol alone. -/
theorem Sign.ofPlain_eq_ok_iff {p : Plain} {s : Sign} : ofPlain p = .ok s ↔ p = s.toPlain := by
  cases p with
  | text t =>
    rw [ofPlain, toPlain, Plain.text.injEq]
    split_ifs with hplus hminus
    · subst hplus
      cases s <;> simp [symbol]
    · subst hminus
      cases s <;> simp [symbol]
    · refine iff_of_false Check.fail_ne_ok ?_
      cases s
      · exact hplus
      · exact hminus
  | _ => exact iff_of_false Check.fail_ne_ok (by simp [toPlain])

/-- A sign and a term are read from a list of the two, and from no other list. -/
theorem Expr.reads_joint : Check.Reads Expr.jointOfPlain Plain.IsJoint := by
  intro p st
  constructor
  · intro h
    obtain ⟨ps, hps, h⟩ := Check.bind_eq_ok_iff.1 h
    obtain rfl := Plain.asList_eq_ok_iff.1 hps
    rcases ps with _ | ⟨s, _ | ⟨q, _ | ⟨r, rs⟩⟩⟩
    · cases h
    · obtain ⟨-, hterm⟩ := Check.both_eq_ok_iff.1 h
      exact absurd (Check.under_eq_ok_iff.1 hterm) Check.fail_ne_ok
    · obtain ⟨hsign, hterm⟩ := Check.both_eq_ok_iff.1 h
      obtain rfl := Sign.ofPlain_eq_ok_iff.1 (Check.under_eq_ok_iff.1 hsign)
      exact ⟨q, rfl, (Term.reads_term q st.2).1 (Check.under_eq_ok_iff.1 hterm)⟩
    · exact absurd h Check.fail_ne_ok
  · rintro ⟨q, rfl, hq⟩
    refine Check.both_eq_ok_iff.2 ⟨?_, ?_⟩
    · exact Check.under_eq_ok_iff.2 (Sign.ofPlain_eq_ok_iff.2 rfl)
    · exact Check.under_eq_ok_iff.2 ((Term.reads_term q st.2).2 hq)

/-- An expression is read from what stands for it. -/
theorem Expr.reads_expr : Check.Reads Expr.ofPlain Plain.IsExpr := by
  intro p e
  constructor
  · intro h
    cases p with
    | record fields =>
      obtain ⟨⟨head, tail⟩, hparts, rfl⟩ := Check.map_eq_ok_iff.1 h
      exact ⟨fields, rfl, (Plain.parts_eq_ok_iff Term.reads_term reads_joint).1 hparts⟩
    | _ => exact absurd h Check.fail_ne_ok
  · rintro ⟨fields, rfl, h⟩
    have hparts := (Plain.parts_eq_ok_iff Term.reads_term reads_joint).2 h
    exact Check.map_eq_ok_iff.2 ⟨(e.head, e.tail), hparts, rfl⟩

/-! ## What is written -/

/-- The plain value of a term is of the form of that term. -/
theorem Term.isTerm_toPlain (t : Term) : t.toPlain.IsTerm t :=
  ⟨_, rfl, Plain.partsUnder_map (.int t.head) .int (by decide)⟩

theorem Expr.isExpr_toPlain (e : Expr) : e.toPlain.IsExpr e :=
  ⟨_, rfl, Plain.partsUnder_map e.head.isTerm_toPlain (fun st => ⟨_, rfl, st.2.isTerm_toPlain⟩) (by decide)⟩

/-- An expression is read back from what it is written as, and with it what it is rendered as and what it is worth. The plain
values that are read as an expression are those that stand for it; and whatever it was read from, it is read again from what it is
written as. -/
theorem Expr.ofPlain_toPlain_exact :
    (∀ e : Expr, ∃ e', ofPlain e.toPlain = .ok e' ∧ e' = e ∧ e'.render = e.render ∧ e'.value = e.value) ∧
      ∀ (p : Plain) (e : Expr), (ofPlain p = .ok e ↔ p.IsExpr e) ∧ (ofPlain p = .ok e → ofPlain e.toPlain = .ok e) := by
  have hback : ∀ e : Expr, ofPlain e.toPlain = .ok e := fun e => (reads_expr _ e).2 e.isExpr_toPlain
  exact ⟨fun e => ⟨e, hback e, rfl, rfl, rfl⟩, fun p e => ⟨reads_expr p e, fun _ => hback e⟩⟩

/-- Integers as a text, a truth value and a floating-point number, an absent tail, and a field that does not matter. -/
theorem Expr.ofPlain_toPlain_exact_lenient :
    ofPlain (.record [("note", .null),
        ("term", .record [("value", .text "+07"), ("tail", .list [.bool true, .float (.finite 1 1)])]),
        ("tail", .list [.list [.text "-", .record [("value", .int (-3))]]])]) = .ok ⟨⟨7, [1, 2]⟩, [(.minus, ⟨-3, []⟩)]⟩ ∧
      ofPlain (.record [("term", .record [("value", .int 7), ("tail", .list [.int 1, .int 2])]),
        ("tail", .list [.list [.text "-", .record [("value", .int (-3)), ("tail", .list [])]]])]) =
          .ok ⟨⟨7, [1, 2]⟩, [(.minus, ⟨-3, []⟩)]⟩ := by
  have hagain : ∀ {p : Plain} {e : Expr}, ofPlain p = .ok e → ofPlain p = .ok e ∧ ofPlain e.toPlain = .ok e :=
    fun {p e} h => ⟨h, (ofPlain_toPlain_exact.2 p e).2 h⟩
  exact hagain (by cbv)

end Reckoner
