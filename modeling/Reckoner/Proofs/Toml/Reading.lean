import Reckoner.Toml.Document

/-!
# Readings of a configuration document: what they leave, and when they break down

A reading takes a piece off the front of a text and leaves the rest. It may find the grammar broken; and it breaks down where
a decimal integer has too many digits, which then stand next to one another in the text (`Yields`). Every reading of a
configuration document is of this kind (`Reads`).
-/

namespace Reckoner.Toml

/-- A text holds a run of digits, low lines among them, with a given number of digits. -/
def HoldsDigits (n : Nat) (s : List Char) : Prop :=
  ∃ run, run <:+: s ∧ (∀ c ∈ run, c.isDigit = true ∨ c = '_') ∧ run.countP Char.isDigit = n

/-- How a reading within a text ends: with a result of a certain kind, with a breach of the grammar, or with a decimal integer
whose digits stand in the text and are too many. -/
inductive Yields {β : Type} (s : List Char) (Q : β → Prop) : Except Fault β → Prop where
  | ok {b : β} (h : Q b) : Yields s Q (.ok b)
  | malformed : Yields s Q (.error .malformed)
  | oversized {n : Nat} (hlong : Numeral.digitLimit < n) (h : HoldsDigits n s) : Yields s Q (.error (.oversized n))

/-- What a reading leaves is the end of the text. -/
def Leaves {α : Type} (s : List Char) (r : α × List Char) : Prop := r.2 <:+ s

/-- A reading takes a piece off the front of every text. -/
def Reads {α : Type} (p : Piece α) : Prop := ∀ s, Yields s (Leaves s) (p s)

/-- A reading that may find nothing of its kind takes a piece off the front of every other text. -/
def Takes {α : Type} (p : List Char → Option (α × List Char)) : Prop := ∀ s r, p s = some r → Leaves s r

section

variable {α β γ : Type} {s t : List Char} {n : Nat}

/-- The digits that the end of a text holds are held by the whole. -/
theorem HoldsDigits.mono (h : HoldsDigits n t) (ht : t <:+ s) : HoldsDigits n s := by
  obtain ⟨run, hrun, hall, hcount⟩ := h
  exact ⟨run, hrun.trans ht.isInfix, hall, hcount⟩

/-- A text holds no more digits than it has characters. -/
theorem HoldsDigits.le_length (h : HoldsDigits n s) : n ≤ s.length := by
  obtain ⟨run, hrun, -, rfl⟩ := h
  exact Nat.le_trans List.countP_le_length hrun.length_le

namespace Yields

variable {Q : β → Prop} {R : γ → Prop} {r : Except Fault β}

/-- An end within one text is one within another that holds its digits, and a result may be said less of. -/
theorem weaken {Q' : β → Prop} (h : Yields t Q r) (ht : ∀ n, HoldsDigits n t → HoldsDigits n s) (hQ : ∀ b, Q b → Q' b) :
    Yields s Q' r := by
  cases h with
  | ok h => exact .ok (hQ _ h)
  | malformed => exact .malformed
  | oversized hlong h => exact .oversized hlong (ht _ h)

/-- An end within the end of a text is one within the whole. -/
theorem mono {Q' : β → Prop} (h : Yields t Q r) (ht : t <:+ s) (hQ : ∀ b, Q b → Q' b) : Yields s Q' r :=
  h.weaken (fun _ hn => hn.mono ht) hQ

/-- A function after a reading changes what is said of its result, and not how else it ends. -/
theorem map {f : β → γ} (h : Yields s Q r) (hf : ∀ b, Q b → R (f b)) : Yields s R (r.map f) := by
  cases h with
  | ok h => exact .ok (hf _ h)
  | malformed => exact .malformed
  | oversized hlong h => exact .oversized hlong h

/-- If what follows a reading ends within the same text, so do both together. -/
theorem bind {f : β → Except Fault γ} (h : Yields s Q r) (hf : ∀ b, Q b → Yields s R (f b)) : Yields s R (r >>= f) := by
  cases h with
  | ok h => exact hf _ h
  | malformed => exact .malformed
  | oversized hlong h => exact .oversized hlong h

/-- What a reading of the end of a text leaves is the end of the whole. -/
theorem extend {r : Except Fault (α × List Char)} (h : Yields t (Leaves t) r) (ht : t <:+ s) : Yields s (Leaves s) r :=
  h.mono ht fun _ hb => hb.trans ht

/-- A character put before the result does not change what is left. -/
theorem cons {c : Char} {r : Except Fault (List Char × List Char)} (h : Yields s (Leaves s) r) :
    Yields s (Leaves s) (Toml.cons c r) :=
  h.map fun _ hb => hb

end Yields

/-- A reading within a text, and what follows it. -/
theorem Reads.bind {p : Piece α} {f : α × List Char → Except Fault β} {Q : β → Prop} (hp : Reads p) (ht : t <:+ s)
    (hf : ∀ a rest, rest <:+ s → Yields s Q (f (a, rest))) : Yields s Q (p t >>= f) :=
  ((hp t).extend ht).bind fun _ hrest => hf _ _ hrest

/-- A function that leaves alone what a reading leaves may be put after it. -/
theorem Reads.map {p : Piece α} {f : α × List Char → β × List Char} (hp : Reads p) (ht : t <:+ s)
    (hf : ∀ r, (f r).2 = r.2) : Yields s (Leaves s) ((p t).map f) :=
  ((hp t).extend ht).map fun r hr => by rw [Leaves, hf r]; exact hr

end

/-! ## Gaps -/

/-- Skipping white space leaves the end of the text. -/
theorem skipSpace_suffix (s : List Char) : skipSpace s <:+ s := List.dropWhile_suffix _

/-- Skipping white space, line ends and comments leaves the end of the text, unless a comment holds a forbidden character. -/
theorem yields_skipGap (inComment : Bool) (s : List Char) : Yields s (· <:+ s) (skipGap inComment s) := by
  fun_induction skipGap inComment s
  case case1 | case7 => exact .ok List.suffix_rfl
  case case3 => exact .malformed
  case case2 ih | case4 ih | case5 ih | case6 ih =>
    exact ih.mono (List.suffix_cons _ _) fun _ hb => hb.trans (List.suffix_cons _ _)

/-- The end of a line takes nothing but what stands before the next line. -/
theorem yields_endLine (s : List Char) : Yields s (· <:+ s) (endLine s) := by
  have hs := skipSpace_suffix s
  unfold endLine
  split
  · rename_i cs h
    rw [h] at hs
    dsimp only
    split
    · exact .malformed
    · exact .ok ((List.tail_suffix _).trans ((List.dropWhile_suffix _).trans ((List.suffix_cons _ _).trans hs)))
  · exact .ok (List.nil_suffix)
  · rename_i cs h
    rw [h] at hs
    exact .ok ((List.suffix_cons _ _).trans hs)
  · exact .malformed

/-! ## Strings and keys -/

/-- What stands after the marks that close a long string is the end of the text. -/
theorem closeLong_suffix (q : Char) (s : List Char) : (closeLong q s).2 <:+ s := by
  fun_cases closeLong q s
  case case1 => exact List.suffix_append [_, _] _
  case case2 | case4 => exact List.suffix_cons _ _
  all_goals exact List.suffix_rfl

/-- A long string begins at the end of the text, less at most one line end. -/
theorem openLong_suffix (s : List Char) : openLong s <:+ s := by
  fun_cases openLong s
  · exact List.suffix_cons _ _
  · exact List.suffix_rfl

/-- A string with escapes is a piece off the front of the text, one line or long, whatever has been read of an escape. -/
theorem reads_escapedString (long : Bool) (state : StringState) : Reads (escapedString long state) := by
  intro s
  fun_induction escapedString long state s
  case case17 => exact .ok ((closeLong_suffix _ _).trans (List.suffix_append [_, _, _] _))
  case case19 => exact .ok (List.suffix_cons _ _)
  case case6 ih | case9 ih | case18 ih | case21 ih => exact (ih.extend (List.suffix_cons _ _)).cons
  case case1 | case7 | case8 | case10 | case14 | case20 => exact .malformed
  all_goals
    rename_i ih
    exact ih.extend (List.suffix_cons _ _)

/-- A string without escapes is a piece off the front of the text. -/
theorem reads_literalString (long : Bool) : Reads (literalString long) := by
  intro s
  fun_induction literalString long s
  case case1 | case5 => exact .malformed
  case case2 => exact .ok ((closeLong_suffix _ _).trans (List.suffix_append [_, _, _] _))
  case case4 => exact .ok (List.suffix_cons _ _)
  case case3 ih | case6 ih => exact (ih.extend (List.suffix_cons _ _)).cons

/-- A string of any of the four kinds is a piece off the front of the text. -/
theorem yields_string? {s : List Char} {r : Except Fault (List Char × List Char)} (h : string? s = some r) :
    Yields s (Leaves s) r := by
  unfold string? at h
  split at h
  · obtain rfl := Option.some.inj h
    exact (reads_escapedString _ _ _).extend ((openLong_suffix _).trans (List.suffix_append [_, _, _] _))
  · obtain rfl := Option.some.inj h
    exact (reads_escapedString _ _ _).extend (List.suffix_cons _ _)
  · obtain rfl := Option.some.inj h
    exact (reads_literalString _ _).extend ((openLong_suffix _).trans (List.suffix_append [_, _, _] _))
  · obtain rfl := Option.some.inj h
    exact (reads_literalString _ _).extend (List.suffix_cons _ _)
  · cases h

theorem reads_keyPart : Reads keyPart := by
  intro s
  unfold keyPart
  split
  · exact (reads_escapedString _ _).map (List.suffix_cons _ _) fun _ => rfl
  · exact (reads_literalString _).map (List.suffix_cons _ _) fun _ => rfl
  · split
    · exact .malformed
    · exact .ok (List.dropWhile_suffix _)

/-- The parts of a key that follow dots are a piece off the front of the text. -/
theorem reads_keyParts (fuel : Nat) : Reads (keyParts fuel) := by
  induction fuel with
  | zero => exact fun s => .malformed
  | succ fuel ih =>
    intro s
    have hs := skipSpace_suffix s
    unfold keyParts
    split
    · rename_i cs h
      rw [h] at hs
      refine reads_keyPart.bind ((skipSpace_suffix _).trans ((List.suffix_cons _ _).trans hs)) fun part rest hrest => ?_
      exact ih.bind hrest fun parts rest hrest => .ok hrest
    · exact .ok hs

/-- A key is a piece off the front of the text. -/
theorem reads_key : Reads key := by
  intro s
  refine reads_keyPart.bind List.suffix_rfl fun part rest hrest => ?_
  exact (reads_keyParts _).bind hrest fun parts rest hrest => .ok hrest

/-! ## Numbers -/

section

variable {isDigit : Char → Bool} {s ds rest : List Char}

/-- The digits that are read are those of the piece that is taken off the text, which else holds only low lines. -/
def IsRun (isDigit : Char → Bool) (run ds : List Char) : Prop :=
  (∀ c ∈ run, isDigit c = true ∨ c = '_') ∧ run.filter isDigit = ds

theorem IsRun.nil : IsRun isDigit [] [] := ⟨fun _ hc => absurd hc List.not_mem_nil, rfl⟩

/-- A digit before a run is one more of its digits. -/
theorem IsRun.digit {d : Char} {run : List Char} (hd : isDigit d = true) (h : IsRun isDigit run ds) :
    IsRun isDigit (d :: run) (d :: ds) :=
  ⟨List.forall_mem_cons.2 ⟨.inl hd, h.1⟩, by rw [List.filter_cons_of_pos hd, h.2]⟩

/-- A low line before a run is none of its digits. -/
theorem IsRun.lowLine {run : List Char} (hlow : isDigit '_' = false) (h : IsRun isDigit run ds) :
    IsRun isDigit ('_' :: run) ds :=
  ⟨List.forall_mem_cons.2 ⟨.inr rfl, h.1⟩, by rw [List.filter_cons_of_neg (by simp [hlow]), h.2]⟩

/-- The digits that follow a digit are those of a run at the front of the text. -/
theorem exists_of_moreDigits (hlow : isDigit '_' = false) (h : moreDigits isDigit s = (ds, rest)) :
    ∃ run, s = run ++ rest ∧ IsRun isDigit run ds := by
  fun_induction moreDigits isDigit s generalizing ds rest
  case case1 hd ds' rest' hmore ih =>
    cases h
    obtain ⟨run, rfl, hrun⟩ := ih hmore
    exact ⟨_, rfl, (hrun.digit hd).lowLine hlow⟩
  case case3 hd ds' rest' hmore ih =>
    cases h
    obtain ⟨run, rfl, hrun⟩ := ih hmore
    exact ⟨_, rfl, hrun.digit hd⟩
  all_goals
    cases h
    exact ⟨[], rfl, .nil⟩

/-- The digits that are read of a text are those of a run at its front. -/
theorem exists_of_digits? (hlow : isDigit '_' = false) (h : digits? isDigit s = some (ds, rest)) :
    ∃ run, s = run ++ rest ∧ IsRun isDigit run ds := by
  unfold digits? at h
  split at h
  · rename_i d cs
    split at h
    · rename_i hd
      cases hmore : moreDigits isDigit cs with
      | mk ds' rest' =>
        rw [hmore] at h
        cases h
        obtain ⟨run, rfl, hrun⟩ := exists_of_moreDigits hlow hmore
        exact ⟨_, rfl, hrun.digit hd⟩
    · cases h
  · cases h

theorem takes_digits? (hlow : isDigit '_' = false) : Takes (digits? isDigit) := by
  intro s r h
  obtain ⟨run, rfl, -⟩ := exists_of_digits? hlow h
  exact List.suffix_append _ _

/-- The digits of a whole number, a zero alone or a run without one in front, are those of a run at the front of the text. -/
theorem exists_of_integerPart? (h : integerPart? s = some (ds, rest)) :
    ∃ run, s = run ++ rest ∧ IsRun Char.isDigit run ds := by
  unfold integerPart? at h
  split at h
  · cases h
    exact ⟨['0'], rfl, IsRun.nil.digit rfl⟩
  · exact exists_of_digits? rfl h

/-- A fraction is a piece off the front of the text. -/
theorem takes_fraction? : Takes fraction? := by
  intro s r h
  unfold fraction? at h
  split at h
  · exact (takes_digits? rfl _ _ h).trans (List.suffix_cons _ _)
  · cases h

theorem splitSign_suffix (s : List Char) : (Numeral.splitSign s).2 <:+ s := by
  fun_cases Numeral.splitSign s
  case case3 => exact List.suffix_rfl
  all_goals exact List.suffix_cons _ _

theorem takes_exponent? : Takes exponent? := by
  intro s r h
  unfold exponent? at h
  split at h
  · split at h
    · obtain ⟨⟨ds, rest⟩, hds, rfl⟩ := Option.map_eq_some_iff.1 h
      exact (takes_digits? rfl _ _ hds).trans ((splitSign_suffix _).trans (List.suffix_cons _ _))
    · cases h
  · cases h

/-- A decimal number may have too many digits, but only where it has as many. -/
theorem yields_decimal? {r : Except Fault (Plain × List Char)} (h : decimal? s = some r) : Yields s (Leaves s) r := by
  obtain ⟨⟨whole, rest⟩, hwhole, rfl⟩ := Option.map_eq_some_iff.1 h
  obtain ⟨run, hbody, hall, rfl⟩ := exists_of_integerPart? hwhole
  have hsign := splitSign_suffix s
  have hrest : rest <:+ s := (hbody ▸ List.suffix_append _ _ : rest <:+ (Numeral.splitSign s).2).trans hsign
  dsimp only
  split
  · rename_i part rest' hpart
    have hrest' := (takes_fraction? _ _ hpart).trans hrest
    cases hscale : exponent? rest' with
    | none => exact .ok hrest'
    | some scaled => exact .ok ((takes_exponent? _ _ hscale).trans hrest')
  · split
    · rename_i hscale
      exact .ok ((takes_exponent? _ _ hscale).trans hrest)
    · split
      · exact .ok hrest
      · rename_i hlong
        refine .oversized (Nat.lt_of_not_le hlong) ⟨run, ?_, hall, List.countP_eq_length_filter⟩
        exact (hbody ▸ List.infix_append [] run rest : run <:+: (Numeral.splitSign s).2).trans hsign.isInfix

theorem takes_based? : Takes based? := by
  intro s r h
  unfold based? at h
  split at h
  · obtain ⟨base, -, h⟩ := Option.bind_eq_some_iff.1 h
    obtain ⟨⟨ds, rest⟩, hds, h⟩ := Option.bind_eq_some_iff.1 h
    cases h
    exact (takes_digits? rfl _ _ hds).trans (List.suffix_append [_, _] _)
  · cases h

/-- An infinity and a number that is none are pieces off the front of the text. -/
theorem takes_special? : Takes special? := by
  intro s r h
  have hsign := splitSign_suffix s
  unfold special? at h
  split at h
  · rename_i hbody
    cases h
    rw [hbody] at hsign
    exact (List.suffix_append [_, _, _] _).trans hsign
  · rename_i hbody
    cases h
    rw [hbody] at hsign
    exact (List.suffix_append [_, _, _] _).trans hsign
  · cases h

end

/-! ## Dates and times -/

section

variable {s rest : List Char}

/-- A number of two digits within bounds is a piece off the front of the text. -/
theorem takes_twoDigits? (lo hi : Nat) : Takes (twoDigits? lo hi) := by
  intro s r h
  unfold twoDigits? at h
  split at h
  · split at h
    · dsimp only at h
      split at h
      · cases h
        exact List.suffix_append [_, _] _
      · cases h
    · cases h
  · cases h

/-- What stands after a given character is the end of the text. -/
theorem after?_suffix {c : Char} (h : after? c s = some rest) : rest <:+ s := by
  unfold after? at h
  split at h
  · split at h
    · cases h
      exact List.suffix_cons _ _
    · cases h
  · cases h

/-- What stands after a fraction of a second is the end of the text. -/
theorem skipSecondFraction_suffix (s : List Char) : skipSecondFraction s <:+ s := by
  unfold skipSecondFraction
  split
  · split
    · exact (List.dropWhile_suffix _).trans (List.suffix_append [_, _] _)
    · exact List.suffix_rfl
  · exact List.suffix_rfl

/-- What stands after a time of day is the end of the text. -/
theorem afterTime?_suffix (h : afterTime? s = some rest) : rest <:+ s := by
  obtain ⟨⟨hour, s₁⟩, h₁, h⟩ := Option.bind_eq_some_iff.1 h
  obtain ⟨s₂, h₂, h⟩ := Option.bind_eq_some_iff.1 h
  obtain ⟨⟨minute, s₃⟩, h₃, h⟩ := Option.bind_eq_some_iff.1 h
  obtain ⟨s₄, h₄, h⟩ := Option.bind_eq_some_iff.1 h
  obtain ⟨⟨second, s₅⟩, h₅, h⟩ := Option.bind_eq_some_iff.1 h
  obtain rfl := Option.some.inj h
  have hhour := (after?_suffix h₂).trans (takes_twoDigits? _ _ _ _ h₁)
  have hminute := ((after?_suffix h₄).trans (takes_twoDigits? _ _ _ _ h₃)).trans hhour
  exact (skipSecondFraction_suffix _).trans ((takes_twoDigits? _ _ _ _ h₅).trans hminute)

/-- What stands after an offset from universal time is the end of the text. -/
theorem afterOffset?_suffix (h : afterOffset? s = some rest) : rest <:+ s := by
  unfold afterOffset? at h
  split at h
  · split at h
    · cases h
      exact List.suffix_cons _ _
    · split at h
      · obtain ⟨⟨hour, s₁⟩, h₁, h⟩ := Option.bind_eq_some_iff.1 h
        obtain ⟨s₂, h₂, h⟩ := Option.bind_eq_some_iff.1 h
        obtain ⟨⟨minute, s₃⟩, h₃, h⟩ := Option.bind_eq_some_iff.1 h
        obtain rfl := Option.some.inj h
        have hhour := (after?_suffix h₂).trans (takes_twoDigits? _ _ _ _ h₁)
        exact ((takes_twoDigits? _ _ _ _ h₃).trans hhour).trans (List.suffix_cons _ _)
      · cases h
  · cases h

/-- What stands after a date, its time and its offset, so far as it has them, is the end of the text. -/
theorem afterTimeOfDate_suffix (s : List Char) : afterTimeOfDate s <:+ s := by
  unfold afterTimeOfDate
  split
  · rename_i c cs
    split
    · split
      · rename_i rest htime
        have hrest : rest <:+ c :: cs := (afterTime?_suffix htime).trans (List.suffix_cons _ _)
        cases hoffset : afterOffset? rest with
        | none => exact hrest
        | some rest' => exact (afterOffset?_suffix hoffset).trans hrest
      · exact List.suffix_rfl
    · exact List.suffix_rfl
  · exact List.suffix_rfl

/-- A date is a piece off the front of the text, or is no day of the calendar. -/
theorem yields_date? {r : Except Fault (Plain × List Char)} (h : date? s = some r) : Yields s (Leaves s) r := by
  obtain ⟨⟨century, s₁⟩, h₁, h⟩ := Option.bind_eq_some_iff.1 h
  obtain ⟨⟨year, s₂⟩, h₂, h⟩ := Option.bind_eq_some_iff.1 h
  obtain ⟨s₃, h₃, h⟩ := Option.bind_eq_some_iff.1 h
  obtain ⟨⟨month, s₄⟩, h₄, h⟩ := Option.bind_eq_some_iff.1 h
  obtain ⟨s₅, h₅, h⟩ := Option.bind_eq_some_iff.1 h
  obtain ⟨⟨day, s₆⟩, h₆, h⟩ := Option.bind_eq_some_iff.1 h
  obtain rfl := Option.some.inj h
  have hyear := (takes_twoDigits? _ _ _ _ h₂).trans (takes_twoDigits? _ _ _ _ h₁)
  have hmonth := ((takes_twoDigits? _ _ _ _ h₄).trans (after?_suffix h₃)).trans hyear
  have hday := ((takes_twoDigits? _ _ _ _ h₆).trans (after?_suffix h₅)).trans hmonth
  split
  · exact .malformed
  · exact .ok ((afterTimeOfDate_suffix _).trans hday)

end

/-! ## Scalars -/

/-- A truth value is a piece off the front of the text. -/
theorem takes_truth? : Takes truth? := by
  intro s r h
  unfold truth? at h
  split at h
  · cases h
    exact List.suffix_append [_, _, _, _] _
  · cases h
    exact List.suffix_append [_, _, _, _, _] _
  · cases h

/-- A value without parts is a piece off the front of the text. -/
theorem reads_scalar : Reads scalar := by
  intro s
  unfold scalar
  split
  · rename_i h
    exact .ok (takes_truth? _ _ h)
  split
  · rename_i h
    exact yields_date? h
  split
  · rename_i h
    exact .ok (afterTime?_suffix h)
  split
  · rename_i h
    exact .ok (takes_based? _ _ h)
  split
  · rename_i h
    exact yields_decimal? h
  split
  · rename_i h
    exact .ok (takes_special? _ _ h)
  · exact .malformed

end Reckoner.Toml
