import Reckoner.Proofs.Line.Spelling

/-!
# Rendering: expressions as they are written, and read again

An expression is written as the items of its yield with single blanks between (`render_eq_intercalate`); on two levels, as its
terms with their signs, and a term as its factors with multiplication signs between (`Expr.render_eq_terms`,
`Term.render_eq_factors`). What is written is read as the same expression if none of its integers is negative or too wide for
the width, and else it is no expression (`parse_render`). A line that is an expression is written as its own tokens, its
numbers without leading zeros (`render_of_parse`).
-/

namespace Reckoner

/-- An integer that a literal of a width denotes: it is not negative, and lies below the bound of the width. -/
def Legible (w : Width) (n : Int) : Prop := 0 ≤ n ∧ ∀ b, w = .bits b → n < 2 ^ (b - 1).toNat

instance (w : Width) (n : Int) : Decidable (Legible w n) :=
  match w with
  | .unbounded => decidable_of_iff (0 ≤ n) ⟨fun h => ⟨h, nofun⟩, fun h => h.1⟩
  | .bits b =>
    decidable_of_iff (0 ≤ n ∧ n < 2 ^ (b - 1).toNat)
      ⟨fun h => ⟨h.1, fun _ hb => Width.bits.inj hb ▸ h.2⟩, fun h => ⟨h.1, h.2 b rfl⟩⟩

/-- How an item is written. -/
def Item.text : Item → String
  | .value n => n.repr
  | .operator o => o.symbol

/-- What the text of an item spells out: a negative integer is a sign and a number. -/
def Item.spelled (w : Width) : Item → List (Option Item)
  | .operator o => [some (.operator o)]
  | .value n =>
    let number := (literal w (Nat.toDigits 10 n.natAbs)).toOption.map .value
    if n < 0 then [some (.operator (.join .minus)), number] else [number]

/-- The text of a token as it is written anew: a number loses its leading zeros. -/
def Token.canonicalText (t : Token) : String :=
  if t.kind = .number then String.ofList (withoutLeadingZeros t.text.toList) else t.text

/-! ## The two levels of a rendering -/

/-- An expression is written as its items with blanks between. -/
theorem render_eq_intercalate (e : Expr) : e.render = " ".intercalate (e.yield.map Item.text) := by
  rw [Expr.render, Expr.yield_eq, wordsOf, List.map_cons, List.map_flatMap]
  rfl

/-- A term is written as its factors with multiplication signs between. -/
theorem Term.render_eq_factors (t : Term) : t.render = " * ".intercalate (t.factors.map Int.repr) := by
  obtain ⟨n, fs⟩ := t
  induction fs generalizing n with
  | nil => simp [Term.render, Term.operations, Term.factors, wordsOf]
  | cons f fs ih =>
    have hsign : " * " = " " ++ "*" ++ " " := rfl
    have hrest := ih f
    simp only [Term.render, Term.operations, Term.factors, wordsOf, List.map_cons, List.flatMap_cons, List.cons_append,
      List.nil_append, String.intercalate_cons_cons, Operator.symbol] at hrest ⊢
    rw [hrest, hsign]
    simp only [String.append_assoc]

theorem wordsOf_ne_nil (n : Int) (ops : List Operation) : wordsOf n ops ≠ [] := List.cons_ne_nil _ _

/-- The words of signed terms after other words, joined: the terms can be joined each for itself first. -/
theorem intercalate_append_terms (words : List String) (hne : words ≠ []) (tail : List (Sign × Term)) :
    " ".intercalate (words ++ tail.flatMap fun st => st.1.symbol :: wordsOf st.2.head st.2.operations) =
      " ".intercalate (" ".intercalate words :: tail.map fun st => st.1.symbol ++ " " ++ st.2.render) := by
  induction tail generalizing words with
  | nil => simp
  | cons st tail ih =>
    have hterm : " ".intercalate (st.1.symbol :: wordsOf st.2.head st.2.operations) = st.1.symbol ++ " " ++ st.2.render := by
      rw [String.intercalate_cons_of_ne_nil (wordsOf_ne_nil _ _), Term.render]
    rw [List.flatMap_cons, String.intercalate_append_of_ne_nil hne (by simp), ih _ (List.cons_ne_nil _ _), hterm,
      List.map_cons, String.intercalate_cons_cons]

/-- An expression is written as its first term, and then each further term after its sign. -/
theorem Expr.render_eq_terms (e : Expr) :
    e.render = " ".intercalate (e.head.render :: e.tail.map fun st => st.1.symbol ++ " " ++ st.2.render) := by
  have hwords : wordsOf e.first e.operations = wordsOf e.head.head e.head.operations ++
      e.tail.flatMap fun st => st.1.symbol :: wordsOf st.2.head st.2.operations := by
    simp only [wordsOf, Expr.first, Expr.operations, List.flatMap_append, List.flatMap_assoc, List.flatMap_cons,
      List.cons_append]
    rfl
  rw [Expr.render, hwords, intercalate_append_terms _ (wordsOf_ne_nil _ _), Term.render]

/-! ## Characters of a rendering -/

section

variable {c : Char} {e : Expr}

/-- The text of an integer is its digits, after a minus sign if it is negative. -/
theorem toList_text_value (n : Int) :
    (Item.value n).text.toList = (if n < 0 then ['-'] else []) ++ Nat.toDigits 10 n.natAbs := toList_repr n

/-- The text of an item consists of digits, or signs. -/
theorem sign_or_digit_of_mem_text {x : Item} (h : c ∈ x.text.toList) : (∃ o : Operator, c = o.sign) ∨ c.isDigit = true := by
  cases x with
  | operator o =>
    rw [Item.text, toList_symbol] at h
    exact .inl ⟨o, List.mem_singleton.1 h⟩
  | value n =>
    rw [toList_text_value] at h
    rcases List.mem_append.1 h with hminus | hdigit
    · by_cases hneg : n < 0
      · rw [if_pos hneg] at hminus
        exact .inl ⟨.join .minus, List.mem_singleton.1 hminus⟩
      · rw [if_neg hneg] at hminus
        cases hminus
    · exact .inr (isDigit_of_mem_toDigits _ c hdigit)

/-- The text of an item holds no blank. -/
theorem blank_not_mem_text (x : Item) : ' ' ∉ x.text.toList := by
  intro h
  rcases sign_or_digit_of_mem_text h with ⟨o, ho⟩ | hdigit
  · rcases o with ⟨_ | _⟩ | _ <;> exact absurd ho (by decide)
  · exact absurd hdigit (by decide)

/-- What items with single blanks between are written with: blanks, signs and digits. -/
theorem mem_intercalate_text {xs : List Item} (h : c ∈ [' '].intercalate (xs.map fun x => x.text.toList)) :
    c = ' ' ∨ (∃ o : Operator, c = o.sign) ∨ c.isDigit = true := by
  induction xs with
  | nil => cases h
  | cons x xs ih =>
    cases xs with
    | nil => exact .inr (sign_or_digit_of_mem_text (by simpa using h))
    | cons y xs =>
      rw [List.map_cons, List.map_cons, List.intercalate_cons_cons, List.mem_append, List.mem_append,
        List.mem_singleton] at h
      rcases h with (h | h) | h
      · exact .inr (sign_or_digit_of_mem_text h)
      · exact .inl h
      · exact ih h

/-- What an expression is written as is one line, without an end. -/
theorem isLineEnd_of_mem_render (h : c ∈ e.render.toList) : isLineEnd c = false := by
  rw [render_eq_intercalate, String.toList_intercalate, List.map_map] at h
  rcases mem_intercalate_text h with rfl | ⟨o, rfl⟩ | hdigit
  · rfl
  · rcases o with ⟨_ | _⟩ | _ <;> rfl
  · by_contra hend
    rw [Bool.not_eq_false, isLineEnd, Bool.or_eq_true, decide_eq_true_eq, decide_eq_true_eq] at hend
    rcases hend with rfl | rfl <;> cases hdigit

/-- A rendering has no line ends to lose. -/
theorem lineBody_render (e : Expr) : lineBody e.render.toList = e.render.toList :=
  lineBody_eq_self fun _ hc => isLineEnd_of_mem_render hc

end

/-! ## What a rendering spells -/

section

variable {w : Width} {n : Int} {e e' : Expr}

/-- A negative integer is spelled as a minus sign and the digits of its magnitude. -/
theorem spelled_of_neg (h : n < 0) : (Item.value n).spelled w =
    [some (.operator (.join .minus)), (literal w (Nat.toDigits 10 n.natAbs)).toOption.map .value] := by
  simp only [Item.spelled, if_pos h]

theorem spelled_of_nonneg (h : 0 ≤ n) : (Item.value n).spelled w =
    [(literal w (Nat.toDigits 10 n.natAbs)).toOption.map .value] := by
  simp only [Item.spelled, if_neg (Int.not_lt.2 h)]

/-- The digits of a number spell the literal that they are. -/
theorem spells_toDigits (w : Width) (n : Nat) :
    Spells w (Nat.toDigits 10 n) [(literal w (Nat.toDigits 10 n)).toOption.map .value] := by
  have htext : (lexemeToken .number (Nat.toDigits 10 n) 0).text.toList = Nat.toDigits 10 n := String.toList_ofList
  have h := spells_lexeme (w := w) (.number Nat.toDigits_ne_nil (isDigit_of_mem_toDigits n))
  rwa [item?_of_number rfl, htext] at h

/-- The text of an item spells what the item is spelled as. -/
theorem spells_text (w : Width) (x : Item) : Spells w x.text.toList (x.spelled w) := by
  cases x with
  | operator o =>
    rw [Item.text, toList_symbol]
    exact spells_sign o
  | value n =>
    rcases Int.lt_or_le n 0 with hneg | hnonneg
    · have hminus := spells_sign (w := w) (.join .minus)
      rw [toList_text_value, if_pos hneg, spelled_of_neg hneg]
      exact (spells_divided_iff (divides_sign _) hminus).2 ⟨[], _, rfl, spells_nil, spells_toDigits w n.natAbs⟩
    · rw [toList_text_value, if_neg (Int.not_lt.2 hnonneg), List.nil_append, spelled_of_nonneg hnonneg]
      exact spells_toDigits w n.natAbs

/-- Items with single blanks between spell what each of them spells. -/
theorem spells_intercalate (w : Width) (xs : List Item) :
    Spells w ([' '].intercalate (xs.map fun x => x.text.toList)) (xs.flatMap (Item.spelled w)) := by
  induction xs with
  | nil => exact spells_nil
  | cons x xs ih =>
    cases xs with
    | nil => simpa using spells_text w x
    | cons y xs =>
      rw [List.map_cons, List.map_cons, List.intercalate_cons_cons, List.flatMap_cons, List.append_assoc,
        List.singleton_append, spells_divided_iff (.inl rfl) (spells_blank rfl)]
      exact ⟨_, _, rfl, spells_text w x, ih⟩

/-- What is read from a rendering yields what the items of the rendering spell. -/
theorem parse_render_eq_ok_iff :
    Line.parse w e.render = .ok e' ↔ e'.yield.map some = e.yield.flatMap (Item.spelled w) := by
  have h : Spells w e.render.toList (e.yield.flatMap (Item.spelled w)) := by
    rw [render_eq_intercalate, String.toList_intercalate, List.map_map]
    exact spells_intercalate w e.yield
  rw [parse_eq_ok_iff]
  exact ⟨fun h' => h'.unique h, fun h' => h' ▸ h⟩

end

/-! ## Legible integers -/

section

variable {w : Width} {n m : Int} {xs ys : List (Option Item)}

/-- A natural number is legible if it lies below the bound of the width. -/
theorem legible_natCast_iff {n : Nat} : Legible w n ↔ ∀ b, w = .bits b → n < 2 ^ (b - 1).toNat := by
  rw [Legible, and_iff_right (Int.natCast_nonneg n)]
  exact forall_congr' fun b => imp_congr_right fun _ => by norm_cast

/-- A number that can be written out is a literal of a width exactly if it is legible. -/
theorem isLiteral_toDigits_iff {n : Nat} (hn : Numeral.Writable n) : IsLiteral w (Nat.toDigits 10 n) ↔ Legible w n := by
  have hlen : (Nat.toDigits 10 n).length ≤ 4300 := writable_natCast_iff.1 hn
  rw [IsLiteral, and_iff_right hlen, decimal_toDigits, legible_natCast_iff]

/-- The value of a literal can be written out and is legible. -/
theorem legible_of_isLiteral {d : DigitRun} (h : IsLiteral w d.chars) : Numeral.Writable d.value ∧ Legible w d.value := by
  have hwritable : Numeral.Writable d.value := by
    rw [DigitRun.value, writable_natCast_iff, toDigits_decimal d.digit]
    exact Nat.le_trans (length_withoutLeadingZeros_le d.ne_nil) h.1
  exact ⟨hwritable, legible_natCast_iff.2 h.2⟩

/-- A legible integer is spelled as itself. -/
theorem spelled_of_legible (hw : w.Proper) (hn : Numeral.Writable n) (h : Legible w n) :
    (Item.value n).spelled w = [some (.value n)] := by
  obtain ⟨n, rfl⟩ := Int.eq_ofNat_of_zero_le h.1
  have hlit : literal w (Nat.toDigits 10 n) = .ok n :=
    (literal_digits_iff hw Nat.toDigits_ne_nil (isDigit_of_mem_toDigits n)).2
      ⟨(isLiteral_toDigits_iff hn).2 h, by rw [decimal_toDigits]⟩
  rw [spelled_of_nonneg h.1, Int.natAbs_natCast, hlit]
  rfl

/-- An integer whose text spells an integer first is legible. -/
theorem legible_of_spelled (hw : w.Proper) (hn : Numeral.Writable n)
    (h : some (.value m) :: xs = (Item.value n).spelled w ++ ys) : Legible w n := by
  rcases Int.lt_or_le n 0 with hneg | hnonneg
  · rw [spelled_of_neg hneg] at h
    obtain ⟨hm, -⟩ := List.cons.inj h
    exact absurd (Option.some.inj hm) nofun
  · obtain ⟨n, rfl⟩ := Int.eq_ofNat_of_zero_le hnonneg
    rw [spelled_of_nonneg hnonneg, Int.natAbs_natCast] at h
    obtain ⟨hm, -⟩ := List.cons.inj h
    cases hlit : literal w (Nat.toDigits 10 n) with
    | error _ =>
      rw [hlit] at hm
      cases hm
    | ok v =>
      have hdigits := (literal_digits_iff hw Nat.toDigits_ne_nil (isDigit_of_mem_toDigits n)).1 hlit
      exact (isLiteral_toDigits_iff hn).1 hdigits.1

theorem spelled_operation (op : Operation) (ops : List Operation) :
    ((op :: ops).flatMap itemsOf).flatMap (Item.spelled w) =
      some (.operator op.1) :: ((Item.value op.2).spelled w ++ (ops.flatMap itemsOf).flatMap (Item.spelled w)) := rfl

/-- Operations whose integers spell themselves spell their own items. -/
theorem spelled_operations {ops : List Operation} (hops : ∀ op ∈ ops, (Item.value op.2).spelled w = [some (.value op.2)]) :
    (ops.flatMap itemsOf).flatMap (Item.spelled w) = (ops.flatMap itemsOf).map some := by
  induction ops with
  | nil => rfl
  | cons op ops ih =>
    obtain ⟨hop, hops⟩ := List.forall_mem_cons.1 hops
    rw [spelled_operation, hop, ih hops]
    rfl

/-- If what operations spell is the yield of some operations, all their integers are legible: after an operator there is room for
a number, but not for a sign before it. -/
theorem legible_of_operations (hw : w.Proper) {ops ops' : List Operation} (hops : ∀ op ∈ ops, Numeral.Writable op.2)
    (h : (ops'.flatMap itemsOf).map some = (ops.flatMap itemsOf).flatMap (Item.spelled w)) :
    ∀ op ∈ ops, Legible w op.2 := by
  induction ops generalizing ops' with
  | nil => nofun
  | cons op ops ih =>
    obtain ⟨hop, hops⟩ := List.forall_mem_cons.1 hops
    rw [spelled_operation] at h
    cases ops' with
    | nil => exact absurd h (by simp)
    | cons op' ops' =>
      obtain ⟨-, hrest⟩ := List.cons.inj h
      have hlegible : Legible w op.2 := legible_of_spelled hw hop hrest
      rw [spelled_of_legible hw hop hlegible] at hrest
      obtain ⟨-, hrest⟩ := List.cons.inj hrest
      exact List.forall_mem_cons.2 ⟨hlegible, ih hops hrest⟩

/-- If what an expression is written as is read as some expression, all its integers are legible. -/
theorem legible_of_parse_render (hw : w.Proper) {e e' : Expr} (he : ∀ n ∈ e.leaves, Numeral.Writable n)
    (h : Line.parse w e.render = .ok e') : ∀ n ∈ e.leaves, Legible w n := by
  rw [leaves_eq] at he ⊢
  obtain ⟨hfirst, hops⟩ := List.forall_mem_cons.1 he
  rw [parse_render_eq_ok_iff, Expr.yield_eq, Expr.yield_eq, List.map_cons, List.flatMap_cons] at h
  have hlegible : Legible w e.first := legible_of_spelled hw hfirst h
  rw [spelled_of_legible hw hfirst hlegible] at h
  obtain ⟨-, hrest⟩ := List.cons.inj h
  refine List.forall_mem_cons.2 ⟨hlegible, List.forall_mem_map.2 ?_⟩
  exact legible_of_operations hw (List.forall_mem_map.1 hops) hrest

/-- An expression whose integers are legible is what its rendering is read as. -/
theorem parse_render_of_legible (hw : w.Proper) {e : Expr} (he : ∀ n ∈ e.leaves, Numeral.Writable n ∧ Legible w n) :
    Line.parse w e.render = .ok e := by
  have hvalue : ∀ n ∈ e.leaves, (Item.value n).spelled w = [some (.value n)] :=
    fun n hn => spelled_of_legible hw (he n hn).1 (he n hn).2
  rw [leaves_eq] at hvalue
  obtain ⟨hfirst, hops⟩ := List.forall_mem_cons.1 hvalue
  rw [parse_render_eq_ok_iff, Expr.yield_eq, List.map_cons, List.flatMap_cons, hfirst,
    spelled_operations (List.forall_mem_map.1 hops)]
  rfl

/-- An expression that a line is read as has the literals of the line for its integers. -/
theorem exists_form_of_parse (hw : w.Proper) {source : String} {e : Expr} (h : Line.parse w source = .ok e) :
    ∃ f : LineForm, f.text = source.toList ∧ f.Fits w ∧
      e.leaves = (f.first :: f.links.map Link.literal).map DigitRun.value := by
  obtain ⟨us, hus, hyield⟩ := parse_eq_ok_iff.1 h
  obtain ⟨f, htext, hf, rfl⟩ := (yield_iff_form hw).1 ⟨us, hus, hyield.symm⟩
  refine ⟨f, htext, hf, ?_⟩
  rw [leaves_eq, Expr.first_ofOperations, Expr.operations_ofOperations, List.map_cons, List.map_map, List.map_map]
  rfl

/-- The integers of an expression that a line is read as can be written out and are legible. -/
theorem legible_of_parse (hw : w.Proper) {source : String} {e : Expr} (h : Line.parse w source = .ok e) :
    ∀ n ∈ e.leaves, Numeral.Writable n ∧ Legible w n := by
  obtain ⟨f, -, hf, hleaves⟩ := exists_form_of_parse hw h
  rw [hleaves]
  exact List.forall_mem_map.2 fun d hd => legible_of_isLiteral (hf d hd)

end

/-- What an expression is written as is an expression exactly if its integers, which can be written out, are not negative and
lie below the bound of the width. It is read as the same expression then, and comes to the same value. Every expression that
a line is read as is such a one, and so is read again from what it is written as. -/
theorem parse_render {w : Width} (hw : w.Proper) :
    (∀ e : Expr, (∀ n ∈ e.leaves, Numeral.Writable n) →
      ((∃ e', Line.parse w e.render = .ok e') ↔ ∀ n ∈ e.leaves, Legible w n) ∧
        ∀ e', Line.parse w e.render = .ok e' → e' = e ∧ Line.value w e.render = .ok e.value) ∧
      ∀ source e, Line.parse w source = .ok e →
        (∀ n ∈ e.leaves, Numeral.Writable n ∧ Legible w n) ∧ Line.parse w e.render = .ok e := by
  constructor
  · intro e he
    have hsame : (∀ n ∈ e.leaves, Legible w n) → Line.parse w e.render = .ok e :=
      fun hlegible => parse_render_of_legible hw fun n hn => ⟨he n hn, hlegible n hn⟩
    refine ⟨⟨?_, fun hlegible => ⟨e, hsame hlegible⟩⟩, fun e' he' => ?_⟩
    · rintro ⟨e', he'⟩
      exact legible_of_parse_render hw he he'
    · have h := hsame (legible_of_parse_render hw he he')
      obtain rfl := Except.ok.inj (he'.symm.trans h)
      exact ⟨rfl, value_of_parse h⟩
  · intro source e h
    have hlegible := legible_of_parse hw h
    exact ⟨hlegible, parse_render_of_legible hw hlegible⟩

/-- Legible integers; a negative one; and a line with leading zeros. -/
theorem parse_render_product_difference :
    (Width.bits 8).Proper ∧
      (∀ n ∈ Expr.leaves ⟨⟨5, [12]⟩, [(.minus, ⟨127, []⟩)]⟩, Numeral.Writable n ∧ Legible (.bits 8) n) ∧
      Line.parse (.bits 8) (Expr.render ⟨⟨5, [12]⟩, [(.minus, ⟨127, []⟩)]⟩) = .ok ⟨⟨5, [12]⟩, [(.minus, ⟨127, []⟩)]⟩ ∧
      Line.value (.bits 8) (Expr.render ⟨⟨5, [12]⟩, [(.minus, ⟨127, []⟩)]⟩) = .ok (-67) ∧
      (¬∃ e', Line.parse (.bits 8) (Expr.render ⟨⟨5, [-3]⟩, []⟩) = .ok e') ∧
      Line.parse (.bits 8) "007*2 -1" = .ok ⟨⟨7, [2]⟩, [(.minus, ⟨1, []⟩)]⟩ ∧
      Line.parse (.bits 8) (Expr.render ⟨⟨7, [2]⟩, [(.minus, ⟨1, []⟩)]⟩) = .ok ⟨⟨7, [2]⟩, [(.minus, ⟨1, []⟩)]⟩ := by
  have hw : (Width.bits 8).Proper := by decide
  obtain ⟨hrender, hread⟩ := parse_render hw
  have hwritable : ∀ n ∈ Expr.leaves ⟨⟨5, [12]⟩, [(.minus, ⟨127, []⟩)]⟩, Numeral.Writable n := by decide +kernel
  have hlegible : ∀ n ∈ Expr.leaves ⟨⟨5, [12]⟩, [(.minus, ⟨127, []⟩)]⟩, Legible (.bits 8) n := by decide +kernel
  obtain ⟨haccepted, hsame⟩ := hrender _ hwritable
  obtain ⟨e', he'⟩ := haccepted.2 hlegible
  obtain ⟨rfl, hvalue⟩ := hsame e' he'
  have hnegative := (hrender ⟨⟨5, [-3]⟩, []⟩ (by decide +kernel)).1
  have hzeros : Line.parse (.bits 8) "007*2 -1" = .ok ⟨⟨7, [2]⟩, [(.minus, ⟨1, []⟩)]⟩ := by decide +kernel
  refine ⟨hw, fun n hn => ⟨hwritable n hn, hlegible n hn⟩, he', hvalue, ?_, hzeros, (hread _ _ hzeros).2⟩
  rw [hnegative]
  decide +kernel

/-! ## A line as it is written anew -/

section

variable {w : Width} {us : List Token} {xs : List Item} {source : String} {e : Expr}

/-- A token that stands for an item is written anew as the item is. -/
theorem canonicalText_of_item? (hw : w.Proper) {k : Token.Kind} {l : List Char} {i : Nat} {x : Item} (hl : Lexeme k l)
    (h : (lexemeToken k l i).item? w = some x) : (lexemeToken k l i).canonicalText = x.text := by
  have htext : (lexemeToken k l i).text.toList = l := String.toList_ofList
  cases x with
  | operator o =>
    have hk : k = o.kind := operator?_eq_some_iff.1 (item?_eq_operator_iff.1 h)
    subst hk
    obtain rfl := lexeme_operator_iff.1 hl
    rcases o with ⟨_ | _⟩ | _ <;> rfl
  | value n =>
    obtain ⟨d, rfl, rfl, -, rfl⟩ := exists_literal hw hl h
    have hkind : (lexemeToken .number d.chars i).kind = .number := rfl
    rw [Token.canonicalText, if_pos hkind, htext, ← toDigits_decimal d.digit]
    exact Nat.repr_eq_ofList_toDigits.symm

/-- Tokens of a text that stand for items are written anew as the items are. -/
theorem map_canonicalText (hw : w.Proper) {cs : List Char} (h : ∀ t ∈ us, t.LiesIn 0 cs)
    (hitems : xs.map some = us.map (Token.item? w)) : us.map Token.canonicalText = xs.map Item.text := by
  induction us generalizing xs with
  | nil => rw [List.map_eq_nil_iff.1 hitems]; rfl
  | cons t us ih =>
    obtain ⟨ht, hus⟩ := List.forall_mem_cons.1 h
    cases xs with
    | nil => exact absurd hitems (by simp)
    | cons x xs =>
      obtain ⟨hx, hxs⟩ := List.cons.inj hitems
      obtain ⟨hl, before, -, -, hp, -, -⟩ := ht
      have htoken : t = lexemeToken t.kind t.text.toList (0 + before.length) := by
        rw [lexemeToken, String.ofList_toList, ← hp]
      rw [List.map_cons, List.map_cons, ih hus hxs]
      rw [htoken] at hx ⊢
      rw [canonicalText_of_item? hw hl hx.symm]

end

/-- A line that is an expression is written anew as the texts of its tokens, the end mark left out, in their order and with
single blanks between, each number without its leading zeros; all its integers can be written out. -/
theorem render_of_parse {w : Width} (hw : w.Proper) {source : String} {e : Expr} (h : Line.parse w source = .ok e) :
    (∀ n ∈ e.leaves, Numeral.Writable n) ∧
      ∃ ts, scan source = .ok (ts ++ [Token.endOfLine source.length]) ∧
        e.render = " ".intercalate (ts.map Token.canonicalText) := by
  refine ⟨fun n hn => (legible_of_parse hw h n hn).1, ?_⟩
  obtain ⟨us, hus, hyield⟩ := parse_eq_ok_iff.1 h
  refine ⟨us, scan_eq_ok_iff.2 ⟨us, by rw [String.length_toList], hus⟩, ?_⟩
  rw [render_eq_intercalate, map_canonicalText hw hus.lies hyield.symm]

/-- A line with leading zeros, a zero, and blanks in some places. -/
theorem render_of_parse_zeros :
    (Width.bits 8).Proper ∧ Line.parse (.bits 8) " 007* 00 -10" = .ok ⟨⟨7, [0]⟩, [(.minus, ⟨10, []⟩)]⟩ ∧
      ∃ ts, scan " 007* 00 -10" = .ok (ts ++ [Token.endOfLine 12]) ∧ "7 * 0 - 10" = " ".intercalate (ts.map Token.canonicalText) := by
  have hw : (Width.bits 8).Proper := by decide
  have hparse : Line.parse (.bits 8) " 007* 00 -10" = .ok ⟨⟨7, [0]⟩, [(.minus, ⟨10, []⟩)]⟩ := by decide +kernel
  obtain ⟨-, ts, hscan, hrender⟩ := render_of_parse hw hparse
  have htext : Expr.render ⟨⟨7, [0]⟩, [(.minus, ⟨10, []⟩)]⟩ = "7 * 0 - 10" := by decide +kernel
  exact ⟨hw, hparse, ts, hscan, htext ▸ hrender⟩

end Reckoner
