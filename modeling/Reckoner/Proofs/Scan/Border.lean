import Mathlib.Control.Monad.Basic
import Reckoner.Proofs.Scan.Tokenization

/-!
# Borders: the scan of two texts, one after the other

Two texts meet at a border if no run goes on from the first into the second (`Border`); a blank or a sign on either side makes
one. The tokens of the whole are then those of the first text and, moved by its length, those of the second
(`laysOut_append_iff`), and so is the scan (`scan_append`). A character that may not be scanned ends the scan wherever it
stands, so an error needs no border.
-/

namespace Reckoner

/-- The last character of a text and the first of another one, where there are such, do not belong to one run. -/
def Border (u v : List Char) : Prop := ∀ c ∈ u.getLast?, ∀ d ∈ v.head?, joins c d = false

/-- A blank or a sign: a character that no run goes on across. -/
def Divides (c : Char) : Prop := isBlank c = true ∨ c ∈ ['+', '-', '*']

/-! ## Where there is a border -/

section

variable {a u v : List Char} {c d : Char}

/-- Whether there is a border is told by the two characters that meet. -/
theorem border_of_meet (hc : u.getLast? = some c) (hd : v.head? = some d) (h : joins c d = false) : Border u v := by
  intro c' hc' d' hd'
  obtain rfl := Option.some.inj (hc.symm.trans hc')
  obtain rfl := Option.some.inj (hd.symm.trans hd')
  exact h

/-- A blank or a sign belongs to no run with another character. -/
theorem joins_of_divides (h : Divides c) (d : Char) : joins c d = false := by
  rcases h with hb | hs
  · exact joins_of_isBlank hb d
  · obtain ⟨-, hd, hw⟩ := sign_excludes hs
    simp only [joins, hd, hw, Bool.false_and, Bool.or_self]

/-- There is a border where a blank or a sign stands on one of its sides. -/
theorem border_of_divides (h : ∀ c ∈ u.getLast?, ∀ d ∈ v.head?, Divides c ∨ Divides d) : Border u v := by
  intro c hc d hd
  rcases h c hc d hd with hc | hd
  · exact joins_of_divides hc d
  · rw [joins_comm]
    exact joins_of_divides hd c

/-- There is a border after a blank and after a sign. -/
theorem Divides.border_after (h : Divides c) : Border (u ++ [c]) v := border_of_divides fun b hb _ _ => by
  rw [List.getLast?_concat] at hb
  obtain rfl := Option.some.inj hb
  exact .inl h

theorem Divides.border_before (h : Divides c) : Border u (c :: v) := border_of_divides fun _ _ d hd => by
  obtain rfl := Option.some.inj hd
  exact .inr h

/-- What stands before the last character of a text makes no border and breaks none. -/
theorem Border.of_append (h : Border (a ++ u) v) : Border u v := by
  intro c hc
  refine h c ?_
  rw [List.getLast?_append, Option.mem_def.1 hc]
  rfl

/-- A lexeme that the rest does not extend is not extended across the border after the rest either. -/
theorem Lexeme.stopsAt_append {k : Token.Kind} {l rest : List Char} (hl : Lexeme k l) (hstop : k.StopsAt rest)
    (h : Border (l ++ rest) v) : k.StopsAt (rest ++ v) := by
  cases rest with
  | cons c rest => exact hstop
  | nil =>
    intro d hd
    rw [List.append_nil] at h
    rw [hl.isExtendedBy_eq_joins (List.getLast_mem hl.ne_nil)]
    exact h _ (List.getLast?_eq_some_getLast hl.ne_nil) d hd

end

/-! ## Tokens moved along -/

/-- A token that stands `n` characters further on. -/
def Token.moved (n : Nat) (t : Token) : Token := { t with position := t.position + n }

/-- An error that is found `n` characters further on. -/
def ScanError.moved (n : Nat) (e : ScanError) : ScanError := { e with position := n + e.position }

section

variable {i n : Nat} {u v cs : List Char} {ts : List Token} {e : ScanError}

/-- The token of a lexeme is moved with the place where the lexeme stands. -/
theorem lexemeToken_moved (k : Token.Kind) (l : List Char) : (lexemeToken k l i).moved n = lexemeToken k l (n + i) := by
  simp only [Token.moved, lexemeToken, Token.mk.injEq, true_and]
  omega

/-- A text that begins `n` characters further on has the same tokens, moved by `n`. -/
theorem laysOut_add_iff : LaysOut (n + i) cs ts ↔ ∃ us, ts = us.map (Token.moved n) ∧ LaysOut i cs us := by
  induction cs using text_induction generalizing i ts with
  | nil => simp only [laysOut_nil_iff, exists_eq_right, List.map_nil]
  | blank c cs hc ih => simp only [laysOut_blank_iff hc, Nat.add_assoc, ih]
  | lexeme k l rest hl hstop ih =>
    simp only [laysOut_lexeme_iff hl hstop, Nat.add_assoc, ih]
    constructor
    · rintro ⟨_, rfl, us, rfl, hus⟩
      exact ⟨_, by rw [List.map_cons, lexemeToken_moved], us, rfl, hus⟩
    · rintro ⟨_, rfl, us, rfl, hus⟩
      exact ⟨_, by rw [List.map_cons, lexemeToken_moved], us, rfl, hus⟩
  | alien c cs hc => simp only [not_laysOut_alien hc, and_false, exists_false]

/-- The first alien character of a text is moved with the place where the text begins. -/
theorem isFirstIn_add_iff : (e.moved n).IsFirstIn (n + i) cs ↔ e.IsFirstIn i cs := by
  simp only [ScanError.IsFirstIn, ScanError.moved, Nat.add_assoc, Nat.add_left_cancel_iff]

end

/-! ## Two texts, one after the other -/

section

variable {i : Nat} {u v cs : List Char} {ts : List Token} {e : ScanError}

/-- The tokens of two texts that meet at a border are those of the first and then those of the second. -/
theorem laysOut_append_iff (h : Border u v) :
    LaysOut i (u ++ v) ts ↔ ∃ us vs, ts = us ++ vs ∧ LaysOut i u us ∧ LaysOut (i + u.length) v vs := by
  induction u using text_induction generalizing i ts with
  | nil =>
    simp only [laysOut_nil_iff, List.nil_append, List.length_nil, Nat.add_zero]
    constructor
    · intro hts
      exact ⟨[], ts, rfl, rfl, hts⟩
    · rintro ⟨_, vs, rfl, rfl, hvs⟩
      exact hvs
  | blank c cs hc ih =>
    have hcs : Border cs v := Border.of_append (a := [c]) h
    simp only [List.cons_append, laysOut_blank_iff hc, ih hcs, List.length_cons, Nat.add_right_comm, Nat.add_assoc]
  | lexeme k l rest hl hstop ih =>
    have hstop' : k.StopsAt (rest ++ v) := hl.stopsAt_append hstop h
    simp only [List.append_assoc, laysOut_lexeme_iff hl hstop, laysOut_lexeme_iff hl hstop', ih h.of_append,
      List.length_append, Nat.add_assoc]
    constructor
    · rintro ⟨_, rfl, us, vs, rfl, hus, hvs⟩
      exact ⟨_ :: us, vs, rfl, ⟨us, rfl, hus⟩, hvs⟩
    · rintro ⟨_, vs, rfl, ⟨us, rfl, hus⟩, hvs⟩
      exact ⟨us ++ vs, rfl, us, vs, rfl, hus, hvs⟩
  | alien c cs hc =>
    simp only [List.cons_append, not_laysOut_alien hc, false_and, and_false, exists_false]

/-- Of tokens looked at without their positions, those of two texts that meet at a border are those of the first text and then
those of the second, wherever the second stands. -/
theorem exists_map_laysOut_append_iff {α : Type} {f : Token → α} (hf : ∀ n t, f (t.moved n) = f t) (h : Border u v)
    {zs : List α} :
    (∃ ts, LaysOut 0 (u ++ v) ts ∧ ts.map f = zs) ↔
      ∃ xs ys, zs = xs ++ ys ∧ (∃ us, LaysOut 0 u us ∧ us.map f = xs) ∧ ∃ vs, LaysOut 0 v vs ∧ vs.map f = ys := by
  constructor
  · rintro ⟨_, hts, rfl⟩
    obtain ⟨us, vs, rfl, hus, hvs⟩ := (laysOut_append_iff h).1 hts
    rw [Nat.zero_add, ← Nat.add_zero u.length] at hvs
    obtain ⟨vs', rfl, hvs'⟩ := laysOut_add_iff.1 hvs
    refine ⟨_, _, ?_, ⟨us, hus, rfl⟩, ⟨vs', hvs', rfl⟩⟩
    simp only [List.map_append, List.map_map, Function.comp_def, hf]
  · rintro ⟨_, _, rfl, ⟨us, hus, rfl⟩, ⟨vs, hvs, rfl⟩⟩
    refine ⟨us ++ vs.map (Token.moved u.length), (laysOut_append_iff h).2 ⟨_, _, rfl, hus, ?_⟩, ?_⟩
    · rw [Nat.zero_add, ← Nat.add_zero u.length]
      exact laysOut_add_iff.2 ⟨vs, rfl, hvs⟩
    · simp only [List.map_append, List.map_map, Function.comp_def, hf]

/-- The first character that may not be scanned stays the first one whatever follows. -/
theorem ScanError.IsFirstIn.append (h : e.IsFirstIn i u) (v : List Char) : e.IsFirstIn i (u ++ v) := by
  obtain ⟨before, after, rfl, hp, hc, hbefore⟩ := h
  exact ⟨before, after ++ v, by simp only [List.append_assoc, List.cons_append], hp, hc, hbefore⟩

end

/-! ## The scan of two lines, one after the other -/

/-- A line that has tokens holds no character that may not be scanned. -/
theorem scannable_of_scan {source : String} {ts : List Token} (h : scan source = .ok ts) :
    ∀ c ∈ source.toList, Scannable c := by
  intro c hc
  refine Classical.byContradiction fun hs => ?_
  obtain ⟨e, he⟩ := exists_isFirstIn_iff.2 ⟨c, hc, hs⟩
  exact absurd (h.symm.trans (scan_eq_error_iff.2 he)) nofun

/-- A blank or a sign on either side makes a border. At a border the scan of two lines, one after the other, is that of the
first without its end mark and then that of the second, moved by the length of the first; where the first has an error it has
the same, and where only the second has one it has that one, moved. -/
theorem scan_append (u v : String) :
    ((∀ c ∈ u.toList.getLast?, ∀ d ∈ v.toList.head?, Divides c ∨ Divides d) → Border u.toList v.toList) ∧
      (Border u.toList v.toList →
        (∀ ts us, scan u = .ok ts → scan v = .ok us →
          ts = ts.dropLast ++ [Token.endOfLine u.length] ∧
            scan (u ++ v) = .ok (ts.dropLast ++ us.map (Token.moved u.length))) ∧
        (∀ e, scan u = .error e → scan (u ++ v) = .error e) ∧
        (∀ ts e, scan u = .ok ts → scan v = .error e → scan (u ++ v) = .error (e.moved u.length))) := by
  refine ⟨border_of_divides, fun hborder => ⟨fun ts us hts hus => ?_, fun e he => ?_, fun ts e hts he => ?_⟩⟩
  · obtain ⟨ts, rfl, hlays⟩ := scan_eq_ok_iff.1 hts
    obtain ⟨us, rfl, hlays'⟩ := scan_eq_ok_iff.1 hus
    rw [List.dropLast_concat]
    refine ⟨by rw [String.length_toList], scan_eq_ok_iff.2 ⟨ts ++ us.map (Token.moved u.length), ?_, ?_⟩⟩
    · have hmark : (Token.endOfLine v.toList.length).moved u.length = Token.endOfLine (u ++ v).toList.length := by
        simp only [Token.moved, Token.endOfLine, String.length_toList, String.length_append, Token.mk.injEq, true_and]
        omega
      rw [List.map_append, List.map_singleton, hmark, List.append_assoc]
    · rw [String.toList_append, laysOut_append_iff hborder]
      refine ⟨_, _, rfl, hlays, ?_⟩
      rw [Nat.zero_add, String.length_toList, ← Nat.add_zero u.length]
      exact laysOut_add_iff.2 ⟨us, rfl, hlays'⟩
  · rw [scan_eq_error_iff, String.toList_append]
    exact (scan_eq_error_iff.1 he).append _
  · rw [scan_eq_error_iff, String.toList_append, isFirstIn_append_iff (scannable_of_scan hts), Nat.zero_add,
      String.length_toList, ← Nat.add_zero u.length]
    exact isFirstIn_add_iff.2 (scan_eq_error_iff.1 he)

/-- A word before a number; a character that may not be scanned in the first line; and one in the second, after a blank. -/
theorem scan_append_word_number :
    (Border "7*ab".toList "90 x".toList ∧
      scan ("7*ab" ++ "90 x") = .ok [⟨.number, "7", 0⟩, ⟨.times, "*", 1⟩, ⟨.word, "ab", 2⟩, ⟨.number, "90", 4⟩,
        ⟨.word, "x", 7⟩, Token.endOfLine 8]) ∧
      (Border "1?".toList "2".toList ∧ scan ("1?" ++ "2") = .error ⟨'?', 1⟩) ∧
      (Border "10 ".toList "2?".toList ∧ scan ("10 " ++ "2?") = .error ⟨'?', 4⟩) := by
  have hword : Border "7*ab".toList "90 x".toList := border_of_meet rfl rfl (by decide +kernel)
  have halien : Border "1?".toList "2".toList := border_of_meet rfl rfl (by decide +kernel)
  have hblank : Border "10 ".toList "2?".toList := (scan_append "10 " "2?").1 fun c hc _ _ => by
    obtain rfl := Option.some.inj hc
    exact .inl (.inl rfl)
  have hleft : scan "7*ab" = .ok [⟨.number, "7", 0⟩, ⟨.times, "*", 1⟩, ⟨.word, "ab", 2⟩, Token.endOfLine 4] := by decide +kernel
  have hright : scan "90 x" = .ok [⟨.number, "90", 0⟩, ⟨.word, "x", 3⟩, Token.endOfLine 4] := by decide +kernel
  have hten : scan "10 " = .ok [⟨.number, "10", 0⟩, Token.endOfLine 3] := by decide +kernel
  obtain ⟨-, hok⟩ := ((scan_append "7*ab" "90 x").2 hword).1 _ _ hleft hright
  have hfirst := ((scan_append "1?" "2").2 halien).2.1 ⟨'?', 1⟩ (by decide +kernel)
  have hsecond := ((scan_append "10 " "2?").2 hblank).2.2 _ ⟨'?', 1⟩ hten (by decide +kernel)
  exact ⟨⟨hword, hok⟩, ⟨halien, hfirst⟩, ⟨hblank, hsecond⟩⟩

end Reckoner
