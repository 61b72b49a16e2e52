import Reckoner.Proofs.Line.Rendering
import Reckoner.Report

/-!
# Outlines: what is written of an expression, if all of it can be

The texts of an outline are written one by one, and a single integer that is too long to be written out leaves nothing of it. So an
expression has an outline exactly if all its integers and the values of all its terms can be written out, and then it is this one:
the rendering of the expression, below it a branch for each term, and below that its factors (`Expr.givesWhere_outline`). A product
of many copies of one literal is too long (`not_writable_power`), so not every expression has an outline.
-/

namespace Reckoner

/-! ## Functions that give something on a condition -/

/-- A partial function gives what another one gives where a condition holds, and nothing elsewhere. -/
def GivesWhere {α β : Type} (f : α → Option β) (p : α → Prop) (g : α → β) : Prop := ∀ a b, f a = some b ↔ p a ∧ b = g a

namespace GivesWhere

variable {α β γ δ : Type} {f : α → Option β} {f' : α → Option γ} {p p' q : α → Prop} {g h : α → β} {g' : α → γ} {a : α}

/-- Where the condition holds, there is a result. -/
theorem eq_some (hf : GivesWhere f p g) (ha : p a) : f a = some (g a) := (hf a (g a)).2 ⟨ha, rfl⟩

/-- Where the condition does not hold, there is none. -/
theorem eq_none (hf : GivesWhere f p g) (ha : ¬p a) : f a = none :=
  Option.eq_none_iff_forall_not_mem.2 fun b hb => ha ((hf a b).1 hb).1

/-- There is a result exactly where the condition holds. -/
theorem exists_iff (hf : GivesWhere f p g) : (∃ b, f a = some b) ↔ p a := by
  constructor
  · rintro ⟨b, hb⟩
    exact ((hf a b).1 hb).1
  · intro ha
    exact ⟨g a, hf.eq_some ha⟩

/-- The condition and what is given may be said in other words. -/
theorem congr (hf : GivesWhere f p g) (hp : ∀ a, p a ↔ q a) (hg : ∀ a, g a = h a) : GivesWhere f q h := by
  intro a b
  rw [hf a b, hp a, hg a]

/-- What is made of the results is there where they are. -/
theorem map (hf : GivesWhere f p g) (k : α → β → γ) : GivesWhere (fun a => (f a).map (k a)) p (fun a => k a (g a)) := by
  intro a c
  rw [Option.map_eq_some_iff]
  constructor
  · rintro ⟨b, hb, rfl⟩
    obtain ⟨ha, rfl⟩ := (hf a b).1 hb
    exact ⟨ha, rfl⟩
  · rintro ⟨ha, rfl⟩
    exact ⟨g a, hf.eq_some ha, rfl⟩

/-- What is made of two results is there where both are. -/
theorem both (hf : GivesWhere f p g) (hf' : GivesWhere f' p' g') (k : α → β → γ → δ) :
    GivesWhere (fun a => do let b ← f a; let c ← f' a; return k a b c) (fun a => p a ∧ p' a)
      (fun a => k a (g a) (g' a)) := by
  intro a d
  simp only [Option.bind_eq_bind, Option.pure_def, Option.bind_eq_some_iff, Option.some.injEq]
  constructor
  · rintro ⟨b, hb, c, hc, rfl⟩
    obtain ⟨ha, rfl⟩ := (hf a b).1 hb
    obtain ⟨ha', rfl⟩ := (hf' a c).1 hc
    exact ⟨⟨ha, ha'⟩, rfl⟩
  · rintro ⟨⟨ha, ha'⟩, rfl⟩
    exact ⟨g a, hf.eq_some ha, g' a, hf'.eq_some ha', rfl⟩

/-- The results of a list are there where those of all its items are. -/
theorem mapM (hf : GivesWhere f p g) : GivesWhere (List.mapM f) (fun l => ∀ a ∈ l, p a) (List.map g) := by
  intro l bs
  induction l generalizing bs with
  | nil => simp [eq_comm]
  | cons a l ih =>
    simp only [List.mapM_cons, Option.bind_eq_bind, Option.pure_def, Option.bind_eq_some_iff, Option.some.injEq,
      List.forall_mem_cons, List.map_cons]
    constructor
    · rintro ⟨b, hb, bs', hbs', rfl⟩
      obtain ⟨ha, rfl⟩ := (hf a b).1 hb
      obtain ⟨hl, rfl⟩ := (ih bs').1 hbs'
      exact ⟨⟨ha, hl⟩, rfl⟩
    · rintro ⟨⟨ha, hl⟩, rfl⟩
      exact ⟨g a, hf.eq_some ha, l.map g, (ih _).2 ⟨hl, rfl⟩, rfl⟩

end GivesWhere

/-! ## Integers, terms and expressions as they are written -/

/-- An integer is written as its decimal text, if it can be written out. -/
theorem givesWhere_written : GivesWhere Numeral.written? Numeral.Writable Int.repr :=
  fun _ _ => Numeral.written?_eq_some_iff

/-- A term is written as its rendering, if its factors can be written out. -/
theorem Term.givesWhere_written : GivesWhere Term.written? (fun t => ∀ n ∈ t.factors, Numeral.Writable n) Term.render := by
  intro t s
  rw [render_eq_factors]
  exact Reckoner.givesWhere_written.mapM.map (fun _ texts => " * ".intercalate texts) t.factors s

/-- The integers of an expression are those of its first term and those of the terms after it. -/
theorem Expr.forall_mem_leaves_iff {e : Expr} {p : Int → Prop} :
    (∀ n ∈ e.leaves, p n) ↔ (∀ n ∈ e.head.factors, p n) ∧ ∀ st ∈ e.tail, ∀ n ∈ st.2.factors, p n := by
  rw [leaves, List.forall_mem_flatMap, terms, List.forall_mem_cons, List.forall_mem_map]

/-- An expression is written as its rendering, if its integers can be written out. -/
theorem Expr.givesWhere_written : GivesWhere Expr.written? (fun e => ∀ n ∈ e.leaves, Numeral.Writable n) Expr.render := by
  have hfirst : GivesWhere (fun e : Expr => e.head.written?) (fun e => ∀ n ∈ e.head.factors, Numeral.Writable n)
      (fun e => e.head.render) := fun e => Term.givesWhere_written e.head
  have hterm : GivesWhere (fun st : Sign × Term => st.2.written?) (fun st => ∀ n ∈ st.2.factors, Numeral.Writable n)
      (fun st => st.2.render) := fun st => Term.givesWhere_written st.2
  have hsigned := (hterm.map fun st text => st.1.symbol ++ " " ++ text).mapM
  have hboth := hfirst.both (fun e => hsigned e.tail) fun _ first others => " ".intercalate (first :: others)
  exact hboth.congr (fun e => forall_mem_leaves_iff.symm) fun e => e.render_eq_terms.symm

/-! ## Branches and outlines -/

/-- Signs and terms are paired off in their order: the first term without a sign, each further one with its own. -/
theorem Expr.branches_eq (e : Expr) : e.branches = (none, e.head) :: e.tail.map fun st => (some st.1, st.2) := by
  unfold branches signs terms
  rw [List.zip_cons_cons, List.zip_map']

/-- The branches of an expression are those of its terms. -/
theorem Expr.map_branches_snd (e : Expr) : e.branches.map Prod.snd = e.terms := by
  rw [e.branches_eq, List.map_cons, List.map_map]
  rfl

/-- The label of a term where its factors and its value can be written out. -/
def branchText (b : Option Sign × Term) : String :=
  signText b.1 ++ "term: " ++ b.2.render ++ " = " ++ b.2.value.repr

/-- The branch of a term where its factors and its value can be written out. -/
def branchOutline (b : Option Sign × Term) : Layout.Outline :=
  .node (branchText b) (b.2.factors.map fun n => .node n.repr [])

/-- All that a branch shows of a term can be written out: its factors and its value. -/
def Term.Showable (t : Term) : Prop := (∀ n ∈ t.factors, Numeral.Writable n) ∧ Numeral.Writable t.value

/-- A term has its label if all of it can be written out. -/
theorem givesWhere_branchLabel : GivesWhere (fun b => branchLabel? b.1 b.2) (fun b => b.2.Showable) branchText := by
  have hterm : GivesWhere (fun b : Option Sign × Term => b.2.written?) (fun b => ∀ n ∈ b.2.factors, Numeral.Writable n)
      (fun b => b.2.render) := fun b => Term.givesWhere_written b.2
  have hvalue : GivesWhere (fun b : Option Sign × Term => Numeral.written? b.2.value) (fun b => Numeral.Writable b.2.value)
      (fun b => b.2.value.repr) := fun b => givesWhere_written b.2.value
  exact hterm.both hvalue fun b term value => signText b.1 ++ "term: " ++ term ++ " = " ++ value

/-- A term has its branch if all of it can be written out. -/
theorem givesWhere_branch : GivesWhere (fun b => branch? b.1 b.2) (fun b => b.2.Showable) branchOutline := by
  have hfactors : GivesWhere (fun b : Option Sign × Term => b.2.factors.mapM Numeral.written?)
      (fun b => ∀ n ∈ b.2.factors, Numeral.Writable n) (fun b => b.2.factors.map Int.repr) :=
    fun b => givesWhere_written.mapM b.2.factors
  have hboth := givesWhere_branchLabel.both hfactors fun _ label factors => Layout.Outline.node label (factors.map (.node · []))
  refine hboth.congr (fun b => and_iff_left_of_imp And.left) fun b => ?_
  rw [branchOutline, List.map_map]
  rfl

/-- An expression has its outline exactly if all its integers and the values of all its terms can be written out. -/
theorem Expr.givesWhere_outline :
    GivesWhere Expr.outline? (fun e => (∀ n ∈ e.leaves, Numeral.Writable n) ∧ ∀ t ∈ e.terms, Numeral.Writable t.value)
      (fun e => .node ("expr: " ++ e.render) (e.branches.map branchOutline)) := by
  have hboth := Expr.givesWhere_written.both (fun e => givesWhere_branch.mapM e.branches)
    fun _ root branches => Layout.Outline.node ("expr: " ++ root) branches
  refine hboth.congr (fun e => ?_) fun e => rfl
  have hbranches : (∀ b ∈ e.branches, b.2.Showable) ↔ ∀ t ∈ e.terms, t.Showable := by
    rw [← e.map_branches_snd, List.forall_mem_map]
  have hleaves : (∀ n ∈ e.leaves, Numeral.Writable n) ↔ ∀ t ∈ e.terms, ∀ n ∈ t.factors, Numeral.Writable n :=
    List.forall_mem_flatMap
  refine (and_congr_right' hbranches).trans ?_
  rw [hleaves]
  exact ⟨fun h => ⟨h.1, fun t ht => (h.2 t ht).2⟩, fun h => ⟨h.1, fun t ht => ⟨h.1 t ht, h.2 t ht⟩⟩⟩

/-! ## Terms that are too long -/

/-- The product of an integer and a number of further copies of it. -/
def Term.power (n : Int) (copies : Nat) : Term := ⟨n, List.replicate copies n⟩

/-- The product of 478 factors of ten digits has 4303 digits. -/
theorem not_writable_power : ¬Numeral.Writable (Term.power 1000000000 477).value := by decide +kernel

end Reckoner
