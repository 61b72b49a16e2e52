import Reckoner.Proofs.Toml.Reading

/-!
# Reading a configuration document: the one way it breaks down

Values, statements and whole documents are read piece by piece, each from what the last one left (`reads_nested`,
`Document.yields_readAll`). To put a value into a tree never breaks down (`Fields.yields_assign`). So a document gives a record
or breaks the grammar, unless a decimal integer in it has too many digits (`Document.yields_ofText`).
-/

namespace Reckoner.Toml

/-! ## Changes to a tree -/

namespace Fields

variable {s : List Char}

/-- A change that does not break down can be made at the end of a path. -/
theorem yields_alter {change : Fields → Except Fault Fields} (hchange : ∀ fs, Yields s (fun _ => True) (change fs))
    (path : List Part) (fs : Fields) : Yields s (fun _ => True) (alter change path fs) := by
  induction path generalizing fs with
  | nil => exact hchange fs
  | cons part path ih =>
    have henter : Yields s (fun _ => True) (enter part.2 (fs.get? part.1)) := by
      fun_cases enter part.2 (fs.get? part.1)
      all_goals first | exact .ok trivial | exact .malformed
    exact henter.bind fun inner _ => (ih _).bind fun _ _ => .ok trivial

/-- To add a key breaks down nowhere: the key is there already, or it is added. -/
theorem yields_add (name : String) (v : Plain) (fs : Fields) : Yields s (fun _ => True) (add name v fs) := by
  unfold add
  split
  · exact .ok trivial
  · exact .malformed

/-- To define a table breaks down nowhere: its name is taken, or it is defined. -/
theorem yields_define (n : Nat) (name : String) (fs : Fields) : Yields s (fun _ => True) (define n name fs) := by
  unfold define
  split
  · exact .ok trivial
  · exact .ok trivial
  · exact .malformed

/-- To append to an array of tables breaks down nowhere: its name is taken by something else, or a table is appended. -/
theorem yields_append (name : String) (fs : Fields) : Yields s (fun _ => True) (append name fs) := by
  unfold append
  split
  · exact .ok trivial
  · exact .ok trivial
  · exact .malformed

/-- To assign a value below a header breaks down nowhere. -/
theorem yields_assign (n : Nat) (header : List String) (key : String × List String) (v : Plain) (fs : Fields) :
    Yields s (fun _ => True) (assign n header key v fs) :=
  yields_alter (yields_add _ _) _ _

end Fields

/-! ## Values -/

section

variable {fuel : Nat}

/-- A value is a piece off the front of the text, if the items of an array and the fields of an inline table are one level down.
-/
theorem reads_value_succ (hitems : Reads (items fuel)) (hfields : ∀ fs, Reads (inlineFields fuel fs)) :
    Reads (value (fuel + 1)) := by
  intro s
  unfold value
  split
  · rename_i h
    exact (yields_string? h).map fun r hr => hr
  split
  · exact hitems.bind (List.suffix_cons _ _) fun _ _ hrest => .ok hrest
  · rename_i cs _
    have hcs : skipSpace cs <:+ '\x7b' :: cs := (skipSpace_suffix _).trans (List.suffix_cons _ _)
    dsimp only
    split
    · exact .ok ((List.tail_suffix _).trans hcs)
    · exact (hfields _).bind hcs fun _ _ hrest => .ok hrest
  · exact reads_scalar _

/-- The items of an array are a piece off the front of the text, if values and further items are one level down. -/
theorem reads_items_succ (hvalue : Reads (value fuel)) (hitems : Reads (items fuel)) : Reads (items (fuel + 1)) := by
  intro s
  unfold items
  refine (yields_skipGap _ _).bind fun t ht => ?_
  split
  · exact .ok ((List.suffix_cons _ _).trans ht)
  · refine hvalue.bind ht fun item rest hrest => ?_
    refine ((yields_skipGap _ _).mono hrest fun _ hb => hb.trans hrest).bind fun t ht => ?_
    split
    · exact .ok ((List.suffix_cons _ _).trans ht)
    · exact hitems.bind ((List.suffix_cons _ _).trans ht) fun more rest hrest => .ok hrest
    · exact .malformed

/-- The fields of an inline table are a piece off the front of the text, if values and further fields are one level down. -/
theorem reads_inlineFields_succ (hvalue : Reads (value fuel)) (hfields : ∀ fs, Reads (inlineFields fuel fs)) (fs : Fields) :
    Reads (inlineFields (fuel + 1) fs) := by
  intro s
  unfold inlineFields
  refine reads_key.bind List.suffix_rfl fun key rest hrest => ?_
  dsimp only
  split
  · refine hvalue.bind ((skipSpace_suffix _).trans ((List.suffix_cons _ _).trans hrest)) fun v rest hrest => ?_
    refine (Fields.yields_assign _ _ _ _ _).bind fun fs _ => ?_
    have hspace := (skipSpace_suffix rest).trans hrest
    split
    · rename_i rest h
      rw [h] at hspace
      exact .ok ((List.suffix_cons _ _).trans hspace)
    · rename_i rest h
      rw [h] at hspace
      exact (hfields _ _).extend ((skipSpace_suffix _).trans ((List.suffix_cons _ _).trans hspace))
    · exact .malformed
  · exact .malformed

end

/-- Values, the items of a list and the fields of an inline table take a piece off the front of every text. -/
theorem reads_nested (fuel : Nat) :
    Reads (value fuel) ∧ Reads (items fuel) ∧ ∀ fs, Reads (inlineFields fuel fs) := by
  induction fuel with
  | zero =>
    refine ⟨fun s => ?_, fun s => ?_, fun fs s => ?_⟩
    · unfold value
      exact .malformed
    · unfold items
      exact .malformed
    · unfold inlineFields
      exact .malformed
  | succ fuel ih =>
    obtain ⟨hvalue, hitems, hfields⟩ := ih
    exact ⟨reads_value_succ hitems hfields, reads_items_succ hvalue hitems, reads_inlineFields_succ hvalue hfields⟩

/-! ## Statements -/

namespace Document

variable (d : Document)

/-- A key with its value is a piece off the front of the text. -/
theorem reads_readPair : Reads d.readPair := by
  intro s
  refine reads_key.bind List.suffix_rfl fun key rest hrest => ?_
  dsimp only
  split
  · have hspace := (skipSpace_suffix _).trans ((List.suffix_cons _ _).trans hrest)
    refine (reads_nested _).1.bind hspace fun v rest hrest => ?_
    exact (Fields.yields_assign _ _ _ _ _).bind fun fields _ => .ok hrest
  · exact .malformed

theorem reads_readTableHeader : Reads d.readTableHeader := by
  intro s
  refine reads_key.bind (skipSpace_suffix s) fun key rest hrest => ?_
  refine (Fields.yields_alter (Fields.yields_define _ _) _ _).bind fun fields _ => ?_
  split
  · exact .ok ((List.suffix_cons _ _).trans hrest)
  · exact .malformed

theorem reads_readItemHeader : Reads d.readItemHeader := by
  intro s
  refine reads_key.bind (skipSpace_suffix s) fun key rest hrest => ?_
  refine (Fields.yields_alter (Fields.yields_append _) _ _).bind fun fields _ => ?_
  split
  · exact .ok ((List.suffix_append [_, _] _).trans hrest)
  · exact .malformed

/-- A statement of any kind is a piece off the front of the text. -/
theorem reads_readStatement : Reads d.readStatement := by
  intro s
  unfold readStatement
  split
  · exact (reads_readItemHeader d _).extend (List.suffix_append [_, _] _)
  · exact (reads_readTableHeader d _).extend (List.suffix_cons _ _)
  · exact reads_readPair d _

/-- Statements that are read one after another give a document or break the grammar, unless one has a decimal integer with too
many digits. -/
theorem yields_readAll (fuel : Nat) (s : List Char) : Yields s (fun _ => True) (readAll fuel d s) := by
  induction fuel generalizing d s with
  | zero => exact .malformed
  | succ fuel ih =>
    have hspace := skipSpace_suffix s
    have hline : ∀ {d t}, t <:+ s → Yields s (fun _ => True) (endLine t >>= readAll fuel d) := fun ht =>
      ((yields_endLine _).mono ht fun _ hb => hb.trans ht).bind fun rest hrest => (ih _ _).mono hrest fun _ _ => trivial
    unfold readAll
    split
    · exact .ok trivial
    · rename_i c cs h
      rw [h] at hspace
      split
      · exact hline hspace
      split
      · exact (reads_readStatement d).bind hspace fun d rest hrest => hline hrest
      · exact .malformed

/-! ## Whole documents -/

section

variable {run cs : List Char}

/-- Folding line ends changes nothing of a piece without line feeds at the front of a text. -/
theorem prefix_of_foldLineEnds (hrun : '\n' ∉ run) (h : run <+: foldLineEnds cs) : run <+: cs := by
  fun_induction foldLineEnds cs generalizing run with
  | case1 cs ih =>
    rcases List.prefix_cons_iff.1 h with rfl | ⟨run, rfl, -⟩
    · exact List.nil_prefix
    · exact absurd List.mem_cons_self hrun
  | case2 c cs _ ih =>
    rcases List.prefix_cons_iff.1 h with rfl | ⟨run, rfl, hrest⟩
    · exact List.nil_prefix
    · exact List.cons_prefix_cons.2 ⟨rfl, ih (fun hmem => hrun (List.mem_cons_of_mem _ hmem)) hrest⟩
  | case3 => exact h

/-- The same for a piece anywhere in a text. -/
theorem infix_of_foldLineEnds (hrun : '\n' ∉ run) (h : run <:+: foldLineEnds cs) : run <:+: cs := by
  fun_induction foldLineEnds cs with
  | case1 cs ih =>
    rcases List.infix_cons_iff.1 h with h | h
    · rcases List.prefix_cons_iff.1 h with rfl | ⟨run, rfl, -⟩
      · exact List.nil_infix
      · exact absurd List.mem_cons_self hrun
    · exact (ih h).trans (List.suffix_append ['\r', '\n'] cs).isInfix
  | case2 c cs hc ih =>
    rcases List.infix_cons_iff.1 h with h | h
    · refine (prefix_of_foldLineEnds hrun ?_).isInfix
      rwa [foldLineEnds.eq_2 c cs hc]
    · exact (ih h).trans (List.suffix_cons c cs).isInfix
  | case3 => exact h

end

/-- Digits in a row are not brought about by folding line ends. -/
theorem holdsDigits_of_foldLineEnds {n : Nat} {cs : List Char} (h : HoldsDigits n (foldLineEnds cs)) : HoldsDigits n cs := by
  obtain ⟨run, hrun, hall, hcount⟩ := h
  refine ⟨run, infix_of_foldLineEnds (fun hmem => ?_) hrun, hall, hcount⟩
  rcases hall _ hmem with h | h <;> exact absurd h (by decide)

/-- A text gives a record or breaks the grammar, unless it holds more digits in a row than the longest numeral has. -/
theorem yields_ofText (text : String) : Yields text.toList (fun _ => True) (ofText text) := by
  have hread := yields_readAll empty ((foldLineEnds text.toList).length + 1) (foldLineEnds text.toList)
  exact (hread.weaken (fun _ => holdsDigits_of_foldLineEnds) fun _ _ => trivial).map fun _ _ => trivial

end Document

end Reckoner.Toml
