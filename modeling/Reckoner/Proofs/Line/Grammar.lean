import Reckoner.Line
import Reckoner.Proofs.Line.Form
import Reckoner.Proofs.Reading.Alternation
import Reckoner.Proofs.Scan.Tokenization

/-!
# The grammar of lines: which lines have a value, and which

The tokens of a text are the yield of an expression exactly if the text is a line form whose literals fit the width and are
the leaves of the expression (`yield_iff_form`). So a line has a value exactly if it is such a form, and the value is that of
its literals and operators in one pass (`evaluate_exact`).
-/

namespace Reckoner

/-! ## Tokens of literals and signs -/

section

variable {w : Width} {l rest : List Char} {i : Nat} {us : List Token} {k : Token.Kind}

/-- The kind of token that an operator is read from. -/
def Operator.kind : Operator → Token.Kind
  | .join .plus => .plus
  | .join .minus => .minus
  | .times => .times

/-- The kind of a token stands for one operator, and each operator has one kind. -/
theorem operator?_eq_some_iff {o : Operator} : k.operator? = some o ↔ k = o.kind := by
  rcases o with ⟨_ | _⟩ | _ <;> cases k <;> simp [Token.Kind.operator?, Operator.kind]

/-- The one lexeme of an operator is its sign. -/
theorem lexeme_operator_iff {o : Operator} : Lexeme o.kind l ↔ l = [o.sign] := by
  constructor
  · intro h
    rcases o with ⟨_ | _⟩ | _ <;> cases h <;> rfl
  · rintro rfl
    rcases o with ⟨_ | _⟩ | _
    · exact .plus
    · exact .minus
    · exact .times

/-- A sign is a token of its own, whatever follows it. -/
theorem stopsAt_operator (o : Operator) (rest : List Char) : o.kind.StopsAt rest := by
  rcases o with ⟨_ | _⟩ | _ <;> exact fun _ _ => rfl

theorem item?_sign (o : Operator) : (lexemeToken o.kind [o.sign] i).item? w = some (.operator o) :=
  item?_eq_operator_iff.2 (operator?_eq_some_iff.2 rfl)

/-- The token of a run of digits stands for an integer exactly if the run is a literal of that value. -/
theorem item?_digits_iff (hw : w.Proper) (d : DigitRun) {n : Int} :
    (lexemeToken .number d.chars i).item? w = some (.value n) ↔ IsLiteral w d.chars ∧ n = d.value := by
  have hkind : (lexemeToken .number d.chars i).kind = .number := rfl
  have htext : (lexemeToken .number d.chars i).text.toList = d.chars := String.toList_ofList
  rw [item?_eq_value_iff, Token.number, if_pos hkind, literal_eq_ok_iff, htext]
  exact literal_digits_iff hw d.ne_nil d.digit

/-- A lexeme that stands for an integer is a literal of that value. -/
theorem exists_literal (hw : w.Proper) {n : Int} (hl : Lexeme k l) (h : (lexemeToken k l i).item? w = some (.value n)) :
    ∃ d : DigitRun, k = .number ∧ l = d.chars ∧ IsLiteral w d.chars ∧ n = d.value := by
  have hk : k = .number := (isOperand_iff.2 ⟨n, item?_eq_value_iff.1 h⟩).1
  subst hk
  cases hl with
  | number hne hcs => exact ⟨⟨l, hne, hcs⟩, rfl, rfl, (item?_digits_iff hw ⟨l, hne, hcs⟩).1 h⟩

/-- A lexeme that stands for an operator is its sign. -/
theorem eq_sign {o : Operator} (hl : Lexeme k l) (h : (lexemeToken k l i).item? w = some (.operator o)) : l = [o.sign] := by
  have hk : k = o.kind := operator?_eq_some_iff.1 (item?_eq_operator_iff.1 h)
  subst hk
  exact lexeme_operator_iff.1 hl

end

/-! ## From a line form to its tokens -/

section

variable {w : Width} {i : Nat} {cs : List Char} {us : List Token}

/-- A gap in front of a text adds no token. -/
theorem laysOut_gap_iff (g : Gap) : LaysOut i (g.chars ++ cs) us ↔ LaysOut (i + g.chars.length) cs us := by
  obtain ⟨bs, hbs⟩ := g
  induction bs generalizing i with
  | nil => exact Iff.rfl
  | cons b bs ih =>
    obtain ⟨hb, hbs⟩ := List.forall_mem_cons.1 hbs
    have hrest : LaysOut (i + 1) (bs ++ cs) us ↔ LaysOut (i + 1 + bs.length) cs us := ih hbs
    show LaysOut i (b :: (bs ++ cs)) us ↔ LaysOut (i + (bs.length + 1)) cs us
    rw [laysOut_blank_iff hb, hrest, Nat.add_right_comm, Nat.add_assoc]

/-- Links and a gap after them have tokens that stand for the operations, if the literals are ones of the width. -/
theorem exists_tokens_links (hw : w.Proper) (g : Gap) (ks : List Link) (hks : ∀ k ∈ ks, IsLiteral w k.literal.chars) :
    ∃ us, LaysOut i (ks.flatMap Link.text ++ g.chars) us ∧
      ((ks.map Link.operation).flatMap itemsOf).map some = us.map (Token.item? w) := by
  induction ks generalizing i with
  | nil =>
    refine ⟨[], ?_, rfl⟩
    have h := (laysOut_gap_iff (i := i) g).2 (laysOut_nil_iff.2 rfl)
    rwa [List.append_nil] at h
  | cons k ks ih =>
    obtain ⟨hk, hks⟩ := List.forall_mem_cons.1 hks
    obtain ⟨us, hus, hitems⟩ := ih (i := i + k.before.chars.length + 1 + k.after.chars.length + k.literal.chars.length) hks
    have hdigits : Token.Kind.StopsAt .number (ks.flatMap Link.text ++ g.chars) := isDigit_head_links ks g
    have hliteral := (laysOut_lexeme_iff (.number k.literal.ne_nil k.literal.digit) hdigits).2 ⟨us, rfl, hus⟩
    have hsign := (laysOut_lexeme_iff (lexeme_operator_iff.2 rfl) (stopsAt_operator k.operator _)).2
      ⟨_, rfl, (laysOut_gap_iff (i := i + k.before.chars.length + 1) k.after).2 hliteral⟩
    refine ⟨lexemeToken k.operator.kind [k.operator.sign] (i + k.before.chars.length) ::
      lexemeToken .number k.literal.chars (i + k.before.chars.length + 1 + k.after.chars.length) :: us, ?_, ?_⟩
    · rw [List.flatMap_cons, List.append_assoc, Link.text_append]
      exact (laysOut_gap_iff k.before).2 hsign
    · simp only [List.map_cons, List.flatMap_cons, itemsOf, List.cons_append, List.nil_append, hitems, item?_sign,
        (item?_digits_iff hw k.literal).2 ⟨hk, rfl⟩, Link.operation]

/-- A line form whose literals fit the width has tokens that stand for its literals and operators. -/
theorem exists_tokens_form (hw : w.Proper) (f : LineForm) (hf : f.Fits w) :
    ∃ us, LaysOut 0 f.text us ∧
      (Item.value f.first.value :: (f.links.map Link.operation).flatMap itemsOf).map some = us.map (Token.item? w) := by
  obtain ⟨hfirst, hlinks⟩ := List.forall_mem_cons.1 hf
  obtain ⟨us, hus, hitems⟩ := exists_tokens_links (i := 0 + f.lead.chars.length + f.first.chars.length) hw f.trail f.links
    fun k hk => hlinks _ (List.mem_map_of_mem hk)
  have hdigits : Token.Kind.StopsAt .number (f.links.flatMap Link.text ++ f.trail.chars) := isDigit_head_links f.links f.trail
  have hliteral := (laysOut_lexeme_iff (.number f.first.ne_nil f.first.digit) hdigits).2 ⟨us, rfl, hus⟩
  refine ⟨_, (laysOut_gap_iff f.lead).2 hliteral, ?_⟩
  rw [List.map_cons, hitems, List.map_cons, (item?_digits_iff hw f.first).2 ⟨hfirst, rfl⟩]

end

/-! ## From tokens to a line form -/

/-- A text is made of links that fit the width and a gap after them, and the links have these operations. -/
def IsLinksText (w : Width) (cs : List Char) (ops : List Operation) : Prop :=
  ∃ (ks : List Link) (g : Gap), cs = ks.flatMap Link.text ++ g.chars ∧ (∀ k ∈ ks, IsLiteral w k.literal.chars) ∧
    ops = ks.map Link.operation

/-- A text is that of a line form that fits the width, with this first integer and these operations. -/
def IsFormText (w : Width) (cs : List Char) (n : Int) (ops : List Operation) : Prop :=
  ∃ f : LineForm, cs = f.text ∧ f.Fits w ∧ n = f.first.value ∧ ops = f.links.map Link.operation

section

variable {w : Width} {c : Char} {cs : List Char} {n : Int} {ops : List Operation}

/-- A gap with one more blank in front. -/
def Gap.cons (g : Gap) (h : isBlank c = true) : Gap := ⟨c :: g.chars, List.forall_mem_cons.2 ⟨h, g.blank⟩⟩

/-- No blanks. -/
def Gap.none : Gap := ⟨[], nofun⟩

theorem IsLinksText.nil : IsLinksText w [] [] := ⟨[], .none, rfl, nofun, rfl⟩

/-- A blank before links belongs to the gap before them. -/
theorem IsLinksText.blank (hc : isBlank c = true) (h : IsLinksText w cs ops) : IsLinksText w (c :: cs) ops := by
  obtain ⟨ks, g, rfl, hks, rfl⟩ := h
  cases ks with
  | nil => exact ⟨[], g.cons hc, rfl, hks, rfl⟩
  | cons k ks =>
    refine ⟨{ k with before := k.before.cons hc } :: ks, g, ?_, ?_, rfl⟩
    · simp only [List.flatMap_cons, Link.text, Gap.cons, List.cons_append]
    · exact List.forall_mem_cons.2 (List.forall_mem_cons.1 hks)

/-- A blank before a line form belongs to its first gap. -/
theorem IsFormText.blank (hc : isBlank c = true) (h : IsFormText w cs n ops) : IsFormText w (c :: cs) n ops := by
  obtain ⟨f, rfl, hf, rfl, rfl⟩ := h
  exact ⟨{ f with lead := f.lead.cons hc }, rfl, hf, rfl, rfl⟩

/-- A sign before a line form begins a link. -/
theorem IsFormText.sign (o : Operator) (h : IsFormText w cs n ops) : IsLinksText w (o.sign :: cs) ((o, n) :: ops) := by
  obtain ⟨f, rfl, hf, rfl, rfl⟩ := h
  obtain ⟨hfirst, hlinks⟩ := List.forall_mem_cons.1 hf
  refine ⟨⟨.none, o, f.lead, f.first⟩ :: f.links, f.trail, ?_, ?_, rfl⟩
  · simp only [LineForm.text, List.flatMap_cons, Link.text, Gap.none, List.nil_append, List.cons_append, List.append_assoc]
  · exact List.forall_mem_cons.2 ⟨hfirst, fun k hk => hlinks _ (List.mem_map_of_mem hk)⟩

/-- A literal before links begins a line form. -/
theorem IsLinksText.literal (d : DigitRun) (hd : IsLiteral w d.chars) (h : IsLinksText w cs ops) :
    IsFormText w (d.chars ++ cs) d.value ops := by
  obtain ⟨ks, g, rfl, hks, rfl⟩ := h
  exact ⟨⟨.none, d, ks, g⟩, rfl, List.forall_mem_cons.2 ⟨hd, List.forall_mem_map.2 hks⟩, rfl, rfl⟩

/-- A text whose tokens stand for operations is made of links, and one whose tokens stand for an integer and operations is a
line form. -/
theorem isText_of_laysOut (hw : w.Proper) (cs : List Char) : ∀ {i us}, LaysOut i cs us →
    (∀ ops : List Operation, (ops.flatMap itemsOf).map some = us.map (Token.item? w) → IsLinksText w cs ops) ∧
      (∀ n (ops : List Operation), (Item.value n :: ops.flatMap itemsOf).map some = us.map (Token.item? w) →
        IsFormText w cs n ops) := by
  induction cs using text_induction with
  | nil =>
    intro i us h
    obtain rfl := laysOut_nil_iff.1 h
    refine ⟨fun ops hops => ?_, fun n ops hops => absurd hops (by simp)⟩
    cases ops with
    | nil => exact .nil
    | cons op ops => exact absurd hops (by simp [itemsOf])
  | blank c cs hc ih =>
    intro i us h
    obtain ⟨hlinks, hform⟩ := ih ((laysOut_blank_iff hc).1 h)
    exact ⟨fun ops hops => (hlinks ops hops).blank hc, fun n ops hops => (hform n ops hops).blank hc⟩
  | lexeme k l rest hl hstop ih =>
    intro i us h
    obtain ⟨us, rfl, hus⟩ := (laysOut_lexeme_iff hl hstop).1 h
    obtain ⟨hlinks, hform⟩ := ih hus
    constructor
    · intro ops hops
      cases ops with
      | nil => exact absurd hops (by simp)
      | cons op ops =>
        obtain ⟨o, n⟩ := op
        obtain ⟨ho, hrest⟩ := List.cons.inj hops
        rw [eq_sign hl ho.symm]
        exact (hform n ops hrest).sign o
    · intro n ops hops
      obtain ⟨hn, hrest⟩ := List.cons.inj hops
      obtain ⟨d, -, rfl, hd, rfl⟩ := exists_literal hw hl hn.symm
      exact (hlinks ops hrest).literal d hd
  | alien c cs hc => exact fun h => absurd h (not_laysOut_alien hc)

end

/-! ## Which lines have a value -/

/-- The tokens of a line are the yield of an expression exactly if the line is a form that fits the width, with the first
integer and the operations of the expression. -/
theorem yield_iff_form {w : Width} (hw : w.Proper) {line : List Char} {e : Expr} :
    (∃ us, LaysOut 0 line us ∧ e.yield.map some = us.map (Token.item? w)) ↔
      ∃ f : LineForm, f.text = line ∧ f.Fits w ∧ e = .ofOperations f.first.value (f.links.map Link.operation) := by
  constructor
  · rintro ⟨us, hus, hyield⟩
    rw [Expr.yield_eq] at hyield
    obtain ⟨f, hline, hf, hfirst, hops⟩ := (isText_of_laysOut hw line hus).2 _ _ hyield
    refine ⟨f, hline.symm, hf, ?_⟩
    rw [← hfirst, ← hops, Expr.ofOperations_operations]
  · rintro ⟨f, rfl, hf, rfl⟩
    rw [yield_ofOperations]
    exact exists_tokens_form hw f hf

/-- The tokens of a line before its end mark are read as the expression that they are the yield of. -/
theorem ofTokens_append_endOfLine_iff {w : Width} {line : List Char} {us : List Token} {n : Nat} {e : Expr}
    (hus : LaysOut 0 line us) :
    Expr.ofTokens w (us ++ [Token.endOfLine n]) = .ok e ↔ e.yield.map some = us.map (Token.item? w) := by
  rw [ofTokens_eq_ok_iff]
  constructor
  · rintro ⟨s, m, rest, hs, hm, hyield⟩
    rcases List.append_eq_append_iff.1 hs with ⟨a, rfl, ha⟩ | ⟨a, rfl, ha⟩
    · obtain rfl : a = [] := by
        have hlen := congrArg List.length ha
        simp only [List.length_append, List.length_cons, List.length_nil] at hlen
        exact List.eq_nil_of_length_eq_zero (by omega)
      rwa [List.append_nil] at hyield
    · cases a with
      | nil => rwa [List.append_nil]
      | cons t a =>
        obtain ⟨rfl, -⟩ := List.cons.inj ha
        have hno : m.kind ≠ .endMark := (hus.lies m (List.mem_append_right _ List.mem_cons_self)).1.ne_endMark
        exact absurd hm hno
  · exact fun hyield => ⟨us, Token.endOfLine n, [], rfl, rfl, hyield⟩

/-- What a line comes to is the expression that its tokens are the yield of, and the value of that expression. -/
theorem evaluate_eq_ok_iff {w : Width} {line : String} {r : Line.Evaluation} :
    Line.evaluate w line = .ok r ↔ ∃ us e, LaysOut 0 line.toList us ∧ e.yield.map some = us.map (Token.item? w) ∧
      r = ⟨us ++ [Token.endOfLine line.toList.length], e, e.value⟩ := by
  constructor
  · intro h
    rw [Line.evaluate, Line.run] at h
    cases hs : scan line with
    | error _ =>
      rw [hs] at h
      cases h
    | ok ts =>
      obtain ⟨us, rfl, hus⟩ := scan_eq_ok_iff.1 hs
      rw [hs] at h
      cases he : Expr.ofTokens w (us ++ [Token.endOfLine line.toList.length]) with
      | error _ =>
        simp only [he] at h
        cases h
      | ok e =>
        simp only [he] at h
        exact ⟨us, e, hus, (ofTokens_append_endOfLine_iff hus).1 he, (Except.ok.inj h).symm⟩
  · rintro ⟨us, e, hus, hyield, rfl⟩
    rw [Line.evaluate, Line.run, scan_eq_ok_iff.2 ⟨us, rfl, hus⟩]
    simp only [(ofTokens_append_endOfLine_iff hus).2 hyield]

/-- A line comes to a value exactly if it is a line form whose literals fit the width, and the value is that of the form. -/
theorem exists_evaluate_iff {w : Width} (hw : w.Proper) {line : String} {v : Int} :
    (∃ r, Line.evaluate w line = .ok r ∧ r.value = v) ↔
      ∃ f : LineForm, f.text = line.toList ∧ f.Fits w ∧ v = f.value := by
  constructor
  · rintro ⟨r, hr, rfl⟩
    obtain ⟨us, e, hus, hyield, rfl⟩ := evaluate_eq_ok_iff.1 hr
    obtain ⟨f, htext, hf, rfl⟩ := (yield_iff_form hw).1 ⟨us, hus, hyield⟩
    refine ⟨f, htext, hf, ?_⟩
    rw [value_eq_onePass, Expr.first_ofOperations, Expr.operations_ofOperations]
    rfl
  · rintro ⟨f, htext, hf, rfl⟩
    obtain ⟨us, hus, hyield⟩ := (yield_iff_form hw).2 ⟨f, htext, hf, rfl⟩
    refine ⟨_, evaluate_eq_ok_iff.2 ⟨us, _, hus, hyield, rfl⟩, ?_⟩
    rw [value_eq_onePass, Expr.first_ofOperations, Expr.operations_ofOperations]
    rfl

/-- A line is accepted exactly if it is a line form whose literals fit the width. There is one such form at most, and the value
of the line, as `Line.evaluate` and as `Line.value` give it, is that of the literals and operators of the form in one pass. -/
theorem evaluate_exact {w : Width} (hw : w.Proper) (line : String) :
    ((∃ r, Line.evaluate w line = .ok r) ↔ ∃ f : LineForm, f.text = line.toList ∧ f.Fits w) ∧
      ((∃ v, Line.value w line = .ok v) ↔ ∃ f : LineForm, f.text = line.toList ∧ f.Fits w) ∧
      (∀ r, Line.evaluate w line = .ok r → ∀ f : LineForm, f.text = line.toList →
        Line.value w line = .ok r.value ∧ r.value = onePass f.first.value (f.links.map Link.operation)) := by
  have haccepted : (∃ r, Line.evaluate w line = .ok r) ↔ ∃ f : LineForm, f.text = line.toList ∧ f.Fits w := by
    constructor
    · rintro ⟨r, hr⟩
      obtain ⟨f, htext, hf, -⟩ := (exists_evaluate_iff hw).1 ⟨r, hr, rfl⟩
      exact ⟨f, htext, hf⟩
    · rintro ⟨f, htext, hf⟩
      obtain ⟨r, hr, -⟩ := (exists_evaluate_iff hw).2 ⟨f, htext, hf, rfl⟩
      exact ⟨r, hr⟩
  refine ⟨haccepted, ?_, fun r hr f hf => ⟨by rw [Line.value, hr]; rfl, ?_⟩⟩
  · rw [← haccepted, Line.value]
    cases Line.evaluate w line with
    | error _ => exact iff_of_false nofun nofun
    | ok r => exact iff_of_true ⟨r.value, rfl⟩ ⟨r, rfl⟩
  · obtain ⟨f', htext, -, hvalue⟩ := (exists_evaluate_iff hw).1 ⟨r, hr, rfl⟩
    rw [hvalue, LineForm.text_injective (htext.trans hf.symm)]
    rfl

/-- Blanks in some places, a product, and a subtraction after it. -/
theorem evaluate_product : (Width.bits 8).Proper ∧ Line.value (.bits 8) "12 + 3*4 -5" = .ok 19 ∧
    ∃ f : LineForm, f.text = "12 + 3*4 -5".toList ∧ f.Fits (.bits 8) ∧
      onePass f.first.value (f.links.map Link.operation) = 19 := by
  have hw : (Width.bits 8).Proper := by decide
  have hvalue : Line.value (.bits 8) "12 + 3*4 -5" = .ok 19 := by cbv
  obtain ⟨haccepted, hvalued, hpass⟩ := evaluate_exact hw "12 + 3*4 -5"
  obtain ⟨f, htext, hf⟩ := hvalued.1 ⟨19, hvalue⟩
  obtain ⟨r, hr⟩ := haccepted.2 ⟨f, htext, hf⟩
  obtain ⟨hr', hone⟩ := hpass r hr f htext
  have hr19 : r.value = 19 := Except.ok.inj (hr'.symm.trans hvalue)
  exact ⟨hw, hvalue, f, htext, hf, hone.symm.trans hr19⟩

end Reckoner
