import Reckoner.Proofs.Numeral.Decimal
import Reckoner.Proofs.Scan.Lexeme
import Reckoner.Proofs.Toml.Document

/-!
# Integers that are too long for a configuration document

A run of digits that does not begin with zero is a decimal integer, and nothing else (`IsLongInteger.scalar_eq`). If it is
longer than the longest numeral, a document that sets a key to it cannot be read, and this is no breach of the grammar
(`Document.ofText_longInteger`).
-/

namespace Reckoner.Toml

/-- A decimal integer longer than the longest numeral. -/
structure IsLongInteger (ds : List Char) : Prop where
  digits : ∀ d ∈ ds, d.isDigit = true
  head : ds.head? ≠ some '0'
  long : Numeral.digitLimit < ds.length

section

variable {a : Char} {ds cs : List Char}

/-! ## Runs of digits -/

/-- A character of a class is none that is not of the class. -/
theorem ne_of_class {p : Char → Bool} {c d : Char} (hc : p c = true) (hd : p d = false) : c ≠ d := by
  rintro rfl
  rw [hc] at hd
  exact absurd hd (by decide)

/-- A text that begins with a character of a class begins with none that is not of the class. -/
theorem cons_ne_of_class {p : Char → Bool} {c d : Char} (hc : p c = true) (hd : p d = false) : c :: cs ≠ d :: ds :=
  fun h => ne_of_class hc hd (List.cons.inj h).1

/-- Of a text of digits, all are read. -/
theorem moreDigits_eq_self (h : ∀ d ∈ ds, d.isDigit = true) : moreDigits Char.isDigit ds = (ds, []) := by
  induction ds with
  | nil => rfl
  | cons d ds ih =>
    obtain ⟨hd, hds⟩ := List.forall_mem_cons.1 h
    unfold moreDigits
    split
    · rename_i heq
      exact absurd heq (cons_ne_of_class hd rfl)
    · rename_i heq
      obtain ⟨rfl, rfl⟩ := List.cons.inj heq
      rw [if_pos hd, ih hds]
    · rename_i heq
      cases heq

namespace IsLongInteger

theorem isDigit_head (h : IsLongInteger (a :: ds)) : a.isDigit = true := h.digits a List.mem_cons_self

theorem head_ne_zero (h : IsLongInteger (a :: ds)) : a ≠ '0' := fun ha => h.head (ha ▸ rfl)

/-- A long integer is a whole number, and nothing of the text is left after it. -/
theorem integerPart?_eq (h : IsLongInteger (a :: ds)) : integerPart? (a :: ds) = some (a :: ds, []) := by
  obtain ⟨ha, hds⟩ := List.forall_mem_cons.1 h.digits
  unfold integerPart?
  split
  · rename_i heq
    exact absurd (List.cons.inj heq).1 h.head_ne_zero
  · simp only [digits?, if_pos ha, moreDigits_eq_self hds]

/-- A long integer is a decimal integer with too many digits. -/
theorem decimal?_eq (h : IsLongInteger (a :: ds)) :
    decimal? (a :: ds) = some (.error (.oversized (a :: ds).length)) := by
  simp only [decimal?, splitSign_of_isDigit h.isDigit_head, h.integerPart?_eq, Option.map_some, fraction?, exponent?,
    if_neg (Nat.not_le_of_lt h.long)]

end IsLongInteger

/-! ## What a run of digits is not -/

/-- The character that was looked for stands in the text. -/
theorem mem_of_after? {c : Char} {rest : List Char} (h : after? c cs = some rest) : c ∈ cs := by
  unfold after? at h
  split at h
  · split at h
    · rename_i heq
      exact heq ▸ List.mem_cons_self
    · cases h
  · cases h

/-- A time of day holds a colon. -/
theorem colon_mem_of_afterTime? {rest : List Char} (h : afterTime? cs = some rest) : ':' ∈ cs := by
  obtain ⟨⟨hour, s₁⟩, h₁, h⟩ := Option.bind_eq_some_iff.1 h
  obtain ⟨s₂, h₂, -⟩ := Option.bind_eq_some_iff.1 h
  exact (takes_twoDigits? _ _ _ _ h₁).mem (mem_of_after? h₂)

/-- A date holds a hyphen. -/
theorem hyphen_mem_of_date? {r : Except Fault (Plain × List Char)} (h : date? cs = some r) : '-' ∈ cs := by
  obtain ⟨⟨century, s₁⟩, h₁, h⟩ := Option.bind_eq_some_iff.1 h
  obtain ⟨⟨year, s₂⟩, h₂, h⟩ := Option.bind_eq_some_iff.1 h
  obtain ⟨s₃, h₃, -⟩ := Option.bind_eq_some_iff.1 h
  exact ((takes_twoDigits? _ _ _ _ h₂).trans (takes_twoDigits? _ _ _ _ h₁)).mem (mem_of_after? h₃)

namespace IsLongInteger

/-- Among the values without parts, a long integer is a decimal integer and nothing else. -/
theorem scalar_eq (h : IsLongInteger (a :: ds)) : scalar (a :: ds) = .error (.oversized (a :: ds).length) := by
  have hmem : ∀ {c : Char}, c.isDigit = false → c ∉ a :: ds := fun hc hmem => ne_of_class (h.digits _ hmem) hc rfl
  have htruth : truth? (a :: ds) = none := by
    unfold truth?
    split
    · rename_i heq
      exact absurd heq (cons_ne_of_class h.isDigit_head rfl)
    · rename_i heq
      exact absurd heq (cons_ne_of_class h.isDigit_head rfl)
    · rfl
  have hdate : date? (a :: ds) = none :=
    Option.eq_none_iff_forall_not_mem.2 fun r hr => hmem rfl (hyphen_mem_of_date? hr)
  have htime : afterTime? (a :: ds) = none :=
    Option.eq_none_iff_forall_not_mem.2 fun r hr => hmem rfl (colon_mem_of_afterTime? hr)
  have hbased : based? (a :: ds) = none := by
    unfold based?
    split
    · rename_i heq
      exact absurd (List.cons.inj heq).1 h.head_ne_zero
    · rfl
  simp only [scalar, htruth, hdate, htime, hbased, h.decimal?_eq]

/-- Among all values, a long integer is a decimal integer and nothing else, at any depth. -/
theorem value_eq (h : IsLongInteger (a :: ds)) (fuel : Nat) :
    value (fuel + 1) (a :: ds) = .error (.oversized (a :: ds).length) := by
  have ha := h.isDigit_head
  have hstring : string? (a :: ds) = none := by
    unfold string?
    split
    case h_5 => rfl
    all_goals
      rename_i heq
      exact absurd heq (cons_ne_of_class ha rfl)
  unfold value
  rw [hstring]
  dsimp only
  split
  · rename_i heq
    exact absurd heq (cons_ne_of_class ha rfl)
  · rename_i heq
    exact absurd heq (cons_ne_of_class ha rfl)
  · exact h.scalar_eq

end IsLongInteger

end

/-! ## Documents -/

section

variable {a c : Char} {name ds rest : List Char}

/-- A name of a key is read up to the equals sign. -/
theorem key_of_bare (hname : ∀ d ∈ c :: name, isBareKeyChar d = true) :
    key (c :: name ++ '=' :: rest) = .ok ((String.ofList (c :: name), []), '=' :: rest) := by
  have hc := hname c List.mem_cons_self
  have hstop : ∀ d ∈ ('=' :: rest).head?, isBareKeyChar d = false := fun d hd => by
    obtain rfl := Option.some.inj hd
    rfl
  have hpart : keyPart (c :: name ++ '=' :: rest) = .ok (String.ofList (c :: name), '=' :: rest) := by
    unfold keyPart
    split
    · rename_i heq
      exact absurd heq (cons_ne_of_class hc rfl)
    · rename_i heq
      exact absurd heq (cons_ne_of_class hc rfl)
    · rw [takeWhile_run hname hstop, dropWhile_run hname hstop]
  rw [key, hpart]
  rfl

namespace Document

/-- A text without carriage returns has no line ends to fold. -/
theorem foldLineEnds_eq_self {cs : List Char} (h : '\r' ∉ cs) : foldLineEnds cs = cs := by
  fun_induction foldLineEnds cs with
  | case1 cs ih => exact absurd List.mem_cons_self h
  | case2 c cs _ ih => rw [ih fun hmem => h (List.mem_cons_of_mem _ hmem)]
  | case3 => rfl

/-- White space is not skipped where there is none. -/
theorem skipSpace_of_class {p : Char → Bool} (hc : p c = true) (hblank : p ' ' = false) (htab : p '\t' = false) :
    skipSpace (c :: rest) = c :: rest := by
  refine List.dropWhile_cons_of_neg ?_
  rw [isSpace, decide_eq_false (ne_of_class hc hblank), decide_eq_false (ne_of_class hc htab)]
  decide

/-- The text that sets a key to a run of digits. -/
def settingText (name ds : List Char) : List Char := name ++ '=' :: ds

/-- A statement that sets a bare key to a long integer breaks down over its digits. -/
theorem readStatement_settingText (hname : ∀ d ∈ c :: name, isBareKeyChar d = true) (h : IsLongInteger (a :: ds))
    (d : Document) :
    d.readStatement (settingText (c :: name) (a :: ds)) = .error (.oversized (a :: ds).length) := by
  have hc := hname c List.mem_cons_self
  have hspace : skipSpace (a :: ds) = a :: ds := skipSpace_of_class h.isDigit_head rfl rfl
  have hpair : d.readPair (settingText (c :: name) (a :: ds)) = .error (.oversized (a :: ds).length) := by
    rw [readPair, settingText, key_of_bare hname]
    simp only [bind, Except.bind, hspace, h.value_eq]
  unfold readStatement
  split
  · rename_i heq
    exact absurd heq (cons_ne_of_class hc rfl)
  · rename_i heq
    exact absurd heq (cons_ne_of_class hc rfl)
  · exact hpair

/-- A document that sets a key to a run of digits too long for a numeral cannot be read for that reason, whatever the key. -/
theorem ofText_longInteger (hname : ∀ d ∈ c :: name, isBareKeyChar d = true) (h : IsLongInteger (a :: ds)) :
    ofText (String.ofList (settingText (c :: name) (a :: ds))) = .error (.oversized (a :: ds).length) := by
  have hc := hname c List.mem_cons_self
  have hfold : foldLineEnds (settingText (c :: name) (a :: ds)) = settingText (c :: name) (a :: ds) := by
    refine foldLineEnds_eq_self fun hmem => ?_
    rcases List.mem_append.1 hmem with hmem | hmem
    · exact ne_of_class (hname _ hmem) (d := '\r') rfl rfl
    · rcases List.mem_cons.1 hmem with heq | hmem
      · exact absurd heq (by decide)
      · exact ne_of_class (h.digits _ hmem) (d := '\r') rfl rfl
  have hread : ∀ fuel, readAll (fuel + 1) empty (settingText (c :: name) (a :: ds)) =
      .error (.oversized (a :: ds).length) := by
    intro fuel
    have hspace : skipSpace (settingText (c :: name) (a :: ds)) = settingText (c :: name) (a :: ds) :=
      skipSpace_of_class hc rfl rfl
    have hbegins : beginsKey c = true := by rw [beginsKey, hc, Bool.true_or, Bool.true_or]
    have hstatement := readStatement_settingText hname h empty
    rw [settingText, List.cons_append] at hspace hstatement ⊢
    unfold readAll
    rw [hspace]
    dsimp only
    rw [if_neg (not_or.2 ⟨ne_of_class hc rfl, ne_of_class hc rfl⟩), if_pos (.inr hbegins), hstatement]
    rfl
  rw [ofText, String.toList_ofList, hfold]
  exact congrArg (Except.map _) (hread _)

end Document

end

end Reckoner.Toml
