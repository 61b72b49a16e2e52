import Reckoner.Proofs.Line.Grammar
import Reckoner.Proofs.Settings.Range

/-!
# Stages of a line: where it can end, and what its error is about

A line ends where it is scanned, where its tokens are read, or with a value. Its tokens end in an end mark, which no expression
goes past, so under a width that some integer fits they are either an expression or refused for one of them (`exists_refused`).
An error of a line is about a place of the line: what it names stands there, or the line ends there (`Line.Refusal.IsAt`).
-/

namespace Reckoner

/-! ## Stage by stage -/

section

variable {w : Width} {line : String} {ts : List Token} {e : Expr} {h : Halt} {r : Line.Refusal}

/-- A line that cannot be scanned is refused for that. -/
theorem evaluate_of_scan_error {se : ScanError} (hs : scan line = .error se) : Line.evaluate w line = .error (.scan se) := by
  rw [Line.evaluate, Line.run, hs]

theorem evaluate_of_halt (hs : scan line = .ok ts) (hh : Expr.ofTokens w ts = .error h) :
    Line.evaluate w line = .error (.reading h) := by
  rw [Line.evaluate, Line.run, hs]
  simp only [hh]

theorem evaluate_of_expr (hs : scan line = .ok ts) (he : Expr.ofTokens w ts = .ok e) :
    Line.evaluate w line = .ok ⟨ts, e, e.value⟩ := by
  rw [Line.evaluate, Line.run, hs]
  simp only [he]

/-- A line that is refused fails to be scanned, or its tokens fail to be read. -/
theorem refused_cases (hr : Line.evaluate w line = .error r) :
    (∃ se, scan line = .error se ∧ r = .scan se) ∨
      ∃ ts h, scan line = .ok ts ∧ Expr.ofTokens w ts = .error h ∧ r = .reading h := by
  cases hs : scan line with
  | error se =>
    rw [evaluate_of_scan_error hs] at hr
    exact .inl ⟨se, rfl, (Except.error.inj hr).symm⟩
  | ok ts =>
    cases hh : Expr.ofTokens w ts with
    | error h =>
      rw [evaluate_of_halt hs hh] at hr
      exact .inr ⟨ts, h, rfl, hh, (Except.error.inj hr).symm⟩
    | ok e =>
      rw [evaluate_of_expr hs hh] at hr
      cases hr

end

/-! ## Tokens that end in an end mark -/

section

variable {w : Width} {t m : Token} {us : List Token} {h : Halt}

/-- An end mark is neither an operand nor an operator. -/
theorem not_mayStandAt_endMark (hm : m.kind = .endMark) (i : Nat) : ¬m.MayStandAt w i := by
  unfold Token.MayStandAt
  split
  · rintro ⟨hk, -⟩
    rw [hm] at hk
    cases hk
  · rintro (hk | hk | hk) <;> rw [hm] at hk <;> cases hk

/-- Tokens with an end mark after them that are no expression are refused for one of them; the error tells if it is about an
end mark. -/
theorem exists_refused (hw : w.Proper) (hm : m.kind = .endMark) (hh : Expr.ofTokens w (us ++ [m]) = .error h) :
    ∃ e, h = .refused e ∧ e.token ∈ us ++ [m] ∧ (e.met? = some .endMark ↔ e.token.kind = .endMark) := by
  have hts := comesTo_ofTokens w (us ++ [m])
  rw [hh] at hts
  generalize hall : us ++ [m] = all at hts
  cases hts with
  | exhausted hs =>
    rw [← hall] at hs
    obtain ⟨-, hmark⟩ := alternates_append_iff.1 hs
    exact absurd (alternates_cons_iff.1 hmark).1 (not_mayStandAt_endMark hm _)
  | @leftover s rest t hs hlen ht hne =>
    exact ⟨_, rfl, by simp, by simp [SyntaxError.met?]⟩
  | @misplaced s rest t h hs hlen ht =>
    rcases number_eq_error ht with ⟨-, rfl⟩ | ⟨hk, hlit, rfl | ⟨n, rfl⟩ | rfl⟩
    · exact ⟨_, rfl, by simp, by simp [SyntaxError.met?]⟩
    · exact ⟨_, rfl, by simp, by simp [SyntaxError.met?, hk]⟩
    · exact ⟨_, rfl, by simp, by simp [SyntaxError.met?, hk]⟩
    · exact absurd hlit (literal_ne_noBits hw)

end

/-! ## Places of errors -/

/-- The piece of a line that a refusal is about. -/
def Line.Refusal.piece : Line.Refusal → String
  | .scan e => String.singleton e.character
  | .reading (.refused e) => e.token.text
  | .reading .exhausted | .reading (.noBits _) => ""

/-- A refusal is about a place of a line: what it names stands there, or else the line ends there and an end mark was met. -/
structure Line.Refusal.IsAt (r : Line.Refusal) (line : List Char) (i : Nat) : Prop where
  position : r.diagnostic?.bind Diagnostic.position = some (i : Int)
  le : i ≤ line.length
  atEnd : i = line.length ↔ ∃ e, r = .reading (.refused e) ∧ e.met? = some .endMark
  within : i < line.length → r.piece ≠ "" ∧ r.piece.toList <+: line.drop i

section

variable {w : Width} {cs : List Char} {source : String} {r : Line.Refusal}

/-- A scan error is about the character at its position. -/
theorem ScanError.IsFirstIn.isAt {e : ScanError} (h : e.IsFirstIn 0 cs) : Line.Refusal.IsAt (.scan e) cs e.position := by
  obtain ⟨before, after, rfl, hp, -, -⟩ := h
  rw [Nat.zero_add] at hp
  have hlt : e.position < (before ++ e.character :: after).length := by
    rw [hp, List.length_append, List.length_cons]
    omega
  refine ⟨rfl, hlt.le, ⟨fun heq => absurd heq hlt.ne, ?_⟩, fun _ => ⟨by simp [Line.Refusal.piece], ?_⟩⟩
  · rintro ⟨e', he', -⟩
    cases he'
  · rw [hp, List.drop_left, Line.Refusal.piece, String.toList_singleton]
    exact ⟨after, rfl⟩

/-- That a refusal met an end mark is said of its syntax error. -/
theorem exists_met_iff {e : SyntaxError} :
    (∃ e', Line.Refusal.reading (.refused e) = .reading (.refused e') ∧ e'.met? = some .endMark) ↔ e.met? = some .endMark := by
  constructor
  · rintro ⟨e', he', hm⟩
    cases he'
    exact hm
  · exact fun hm => ⟨e, rfl, hm⟩

/-- A syntax error about a token of the text is about the place where the token lies. -/
theorem isAt_of_liesIn {e : SyntaxError} (h : e.token.LiesIn 0 cs) (hmet : e.met? ≠ some .endMark) :
    ∃ i, Line.Refusal.IsAt (.reading (.refused e)) cs i := by
  have hpos := h.length_pos
  obtain ⟨-, before, after, hcs, hp, -, -⟩ := h
  rw [Nat.zero_add] at hp
  have hlt : before.length < cs.length := by
    rw [hcs, List.length_append, List.length_append, String.length_toList]
    omega
  refine ⟨before.length, congrArg some hp, hlt.le, ?_, fun _ => ⟨?_, ?_⟩⟩
  · rw [exists_met_iff]
    exact iff_of_false hlt.ne hmet
  · intro hempty
    rw [Line.Refusal.piece] at hempty
    rw [hempty] at hpos
    exact absurd hpos (by decide)
  · rw [hcs, List.append_assoc, List.drop_left]
    exact List.prefix_append _ _

/-- A syntax error that met the end mark of the text is about the end of it. -/
theorem isAt_endOfLine {e : SyntaxError} (h : e.token = Token.endOfLine cs.length) (hmet : e.met? = some .endMark) :
    Line.Refusal.IsAt (.reading (.refused e)) cs cs.length := by
  refine ⟨?_, Nat.le_refl _, iff_of_true rfl (exists_met_iff.2 hmet), fun hlt => absurd hlt (Nat.lt_irrefl _)⟩
  show some e.token.position = _
  rw [h]
  rfl

/-- A syntax error is about the token that it names: one of the text, or the end mark after it. -/
theorem isAt_of_mem {us : List Token} {e : SyntaxError} (hus : LaysOut 0 cs us)
    (he : e.token ∈ us ++ [Token.endOfLine cs.length]) (hmet : e.met? = some .endMark ↔ e.token.kind = .endMark) :
    ∃ i, Line.Refusal.IsAt (.reading (.refused e)) cs i := by
  rcases List.mem_append.1 he with ht | ht
  · exact isAt_of_liesIn (hus.lies _ ht) fun hm => (hus.lies _ ht).1.ne_endMark (hmet.1 hm)
  · have htoken : e.token = Token.endOfLine cs.length := List.mem_singleton.1 ht
    exact ⟨_, isAt_endOfLine htoken (hmet.2 (by rw [htoken]; rfl))⟩

/-- Under a width that some integer fits, a line that is refused has a scan error or a syntax error, and the error is about a
place of the line. -/
theorem refused_isAt (hw : w.Proper) (hr : Line.evaluate w source = .error r) :
    ((∃ e, r = .scan e) ∨ ∃ e, r = .reading (.refused e)) ∧ ∃ i, r.IsAt source.toList i := by
  rcases refused_cases hr with ⟨se, hs, rfl⟩ | ⟨ts, h, hs, hh, rfl⟩
  · exact ⟨.inl ⟨se, rfl⟩, _, (scan_eq_error_iff.1 hs).isAt⟩
  · obtain ⟨us, rfl, hus⟩ := scan_eq_ok_iff.1 hs
    obtain ⟨e, rfl, he, hmet⟩ := exists_refused hw rfl hh
    exact ⟨.inr ⟨e, rfl⟩, isAt_of_mem hus he hmet⟩

end

/-- Under settings that a plain value is read as, a line comes to a value, to a scan error or to a syntax error. An error is
about a place from the start of the line to its end; it is at the end exactly if it is a syntax error that met an end mark, and
else what it names stands at its place. -/
theorem evaluate_ends {p : Plain} {s : Settings} (hs : Settings.ofPlain p = .ok s) (source : String) :
    ((∃ r, Line.evaluate s.width source = .ok r) ∨ (∃ e, Line.evaluate s.width source = .error (.scan e)) ∨
        ∃ e, Line.evaluate s.width source = .error (.reading (.refused e))) ∧
      ∀ r, Line.evaluate s.width source = .error r → ∃ i, r.IsAt source.toList i := by
  have hw := (Settings.inRange_of_ofPlain hs).proper
  refine ⟨?_, fun r hr => (refused_isAt hw hr).2⟩
  cases hr : Line.evaluate s.width source with
  | ok r => exact .inl ⟨r, rfl⟩
  | error r =>
    rcases (refused_isAt hw hr).1 with ⟨e, rfl⟩ | ⟨e, rfl⟩
    · exact .inr (.inl ⟨e, rfl⟩)
    · exact .inr (.inr ⟨e, rfl⟩)

/-- Sixteen bits, given as a text, and a line with a literal that is too wide for them. -/
theorem evaluate_ends_too_wide :
    Settings.ofPlain (.record [("int_bits", .text "16")]) = .ok { literalBits := some 16 } ∧
      Line.evaluate (.bits 16) "1 +\t40000" = .error (.reading (.refused ⟨.tooWide 16, ⟨.number, "40000", 4⟩⟩)) ∧
      ∃ i, Line.Refusal.IsAt (.reading (.refused ⟨.tooWide 16, ⟨.number, "40000", 4⟩⟩)) "1 +\t40000".toList i := by
  have hs : Settings.ofPlain (.record [("int_bits", .text "16")]) = .ok { literalBits := some 16 } := by decide +kernel
  have hr : Line.evaluate (.bits 16) "1 +\t40000" = .error (.reading (.refused ⟨.tooWide 16, ⟨.number, "40000", 4⟩⟩)) := by
    decide +kernel
  exact ⟨hs, hr, (evaluate_ends hs "1 +\t40000").2 _ hr⟩

end Reckoner
