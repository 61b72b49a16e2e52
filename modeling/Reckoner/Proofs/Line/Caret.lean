import Reckoner.Proofs.Line.Rendering
import Reckoner.Proofs.Line.Stages
import Reckoner.Proofs.Text.Description

/-!
# Carets: what the report of an error points at

The report of a line that is refused is three lines: the message, the line without its end, and a caret (`splitOn_report`). What
stands before the caret ends in the same column as what stands before the error, however wide a tab is (`columnAfter_markerAt`).
So the caret stands under the piece of the line that the error names, or one past the line if the error met its end
(`caret_points_at`).
-/

namespace Reckoner

/-! ## Texts on one line -/

/-- The message of a syntax error is on one line if the text of its token is. -/
theorem newline_not_mem_message {e : SyntaxError} (h : '\n' ∉ e.token.text.toList) : '\n' ∉ e.message.toList := by
  obtain ⟨cause, t⟩ := e
  cases cause with
  | unexpected k =>
    simp [SyntaxError.message, String.toList_append, (onOneLine_name k).newline_not_mem,
      (onOneLine_name t.kind).newline_not_mem]
  | malformed => simpa [SyntaxError.message, String.toList_append] using h
  | tooWide n => simpa [SyntaxError.message, String.toList_append, (onOneLine_repr n).newline_not_mem] using h
  | leftover => simpa [SyntaxError.message, String.toList_append] using h

/-! ## Columns -/

/-- The column that a text ends in: a tab goes on to the next multiple of the tab width, and any other character takes one
column. -/
def columnAfter (tab : Nat) (cs : List Char) : Nat :=
  cs.foldl (fun column c => if c = '\t' then (column / tab + 1) * tab else column + 1) 0

/-- What stands under a character, left of a caret: a tab under a tab, and a blank under anything else. -/
def blankFor (c : Char) : Char := if c = '\t' then '\t' else ' '

/-- What stands before the caret that points at a place of a line. -/
def markerAt (line : List Char) (i : Nat) : List Char := (excerptMargin ++ line.take i).map blankFor

section

variable {line : List Char} {i : Nat} {d : Diagnostic} {source : String}

/-- What stands under a text is tabs and blanks only. -/
theorem not_mem_map_blankFor {c : Char} (htab : c ≠ '\t') (hspace : c ≠ ' ') (cs : List Char) : c ∉ cs.map blankFor := by
  intro h
  obtain ⟨b, -, hb⟩ := List.mem_map.1 h
  unfold blankFor at hb
  split_ifs at hb
  · exact htab hb.symm
  · exact hspace hb.symm

/-- Blanks under a text end in the same column as the text. -/
theorem columnAfter_map_blankFor (tab : Nat) (cs : List Char) : columnAfter tab (cs.map blankFor) = columnAfter tab cs := by
  have htab : ∀ c, blankFor c = '\t' ↔ c = '\t' := by
    intro c
    unfold blankFor
    split_ifs with hc
    · exact iff_of_true rfl hc
    · exact iff_of_false (by decide) hc
  rw [columnAfter, List.foldl_map]
  simp only [htab]
  rfl

/-- The caret stands in the column of the place that it points at, which is the end of the line for a place beyond. -/
theorem columnAfter_markerAt (tab : Nat) (line : List Char) (i : Nat) :
    columnAfter tab (markerAt line i) = columnAfter tab (excerptMargin ++ line.take (min i line.length)) := by
  rw [markerAt, columnAfter_map_blankFor, ← List.take_eq_take_min]

/-- What stands before the caret is as long as what stands before the place, margin included. -/
theorem length_markerAt (h : line.length ≤ i) : (markerAt line i).length = (excerptMargin ++ line).length := by
  rw [markerAt, List.length_map, List.take_of_length_le h]

/-- A report about a place puts the line below the message, and the caret below the line. -/
theorem toList_report (hd : d.position = some (i : Int)) : (d.report source).toList = ['\n'].intercalate
    [d.text.toList, excerptMargin ++ lineBody source.toList, markerAt (lineBody source.toList) i ++ ['^']] := by
  have hmargin : excerptMargin.map (fun _ => ' ') = excerptMargin.map blankFor := by decide +kernel
  have hpadding : caretPadding (lineBody source.toList) i = ((lineBody source.toList).take i).map blankFor := by
    rw [caretPadding, before, if_neg (by omega), Int.toNat_natCast]
    rfl
  simp [Diagnostic.report, hd, excerpt, String.toList_append, hpadding, hmargin, markerAt, List.intercalate_cons_cons]

/-- Such a report is three lines, if the message and the line are one each. -/
theorem splitOn_report (hd : d.position = some (i : Int)) (htext : '\n' ∉ d.text.toList)
    (hline : '\n' ∉ lineBody source.toList) : (d.report source).toList.splitOn '\n' =
      [d.text.toList, excerptMargin ++ lineBody source.toList, markerAt (lineBody source.toList) i ++ ['^']] := by
  have hmargin : '\n' ∉ excerptMargin := by decide +kernel
  have hmarker : '\n' ∉ markerAt (lineBody source.toList) i := not_mem_map_blankFor (by decide) (by decide) _
  rw [toList_report hd, List.splitOn_intercalate]
  · intro l hl
    simp only [List.mem_cons, List.not_mem_nil, or_false] at hl
    rcases hl with rfl | rfl | rfl
    · exact htext
    · exact fun h => (List.mem_append.1 h).elim hmargin hline
    · exact fun h => (List.mem_append.1 h).elim hmarker (by decide)
  · exact List.cons_ne_nil _ _

end

/-! ## Errors of a line -/

section

variable {w : Width} {source : String} {r : Line.Refusal} {c : Char}

theorem isBlank_of_isLineEnd (h : isLineEnd c = true) : isBlank c = true := by
  rw [isLineEnd, Bool.or_eq_true, decide_eq_true_eq, decide_eq_true_eq] at h
  rcases h with rfl | rfl <;> decide +kernel

/-- The piece that an error names holds no blank. -/
theorem isBlank_of_mem_piece (hw : w.Proper) (hr : Line.evaluate w source = .error r) (hc : c ∈ r.piece.toList) :
    isBlank c = false := by
  rcases refused_cases hr with ⟨se, hs, rfl⟩ | ⟨ts, h, hs, hh, rfl⟩
  · obtain ⟨-, -, -, -, halien, -⟩ := scan_eq_error_iff.1 hs
    rw [Line.Refusal.piece, String.toList_singleton, List.mem_singleton] at hc
    subst hc
    exact Bool.eq_false_iff.2 fun hblank => halien (.inl hblank)
  · obtain ⟨us, rfl, hus⟩ := scan_eq_ok_iff.1 hs
    obtain ⟨e, rfl, he, -⟩ := exists_refused hw rfl hh
    rw [Line.Refusal.piece] at hc
    rcases List.mem_append.1 he with ht | ht
    · exact (hus.lies _ ht).1.isBlank_eq_false hc
    · have hmark : "<EOF>".toList.any isBlank = false := by decide +kernel
      rw [List.mem_singleton.1 ht] at hc
      exact Bool.eq_false_iff.2 (List.any_eq_false.1 hmark c hc)

/-- The text of an error is on one line. -/
theorem newline_not_mem_text (hw : w.Proper) (hr : Line.evaluate w source = .error r) {d : Diagnostic}
    (hd : r.diagnostic? = some d) : '\n' ∉ d.text.toList := by
  have hat : '\n' ∉ " at position: ".toList := by decide +kernel
  have htext : ∀ {message : String} {p : Int}, '\n' ∉ message.toList →
      '\n' ∉ (Diagnostic.text ⟨message, some p⟩).toList := by
    intro message p hmessage
    rw [Diagnostic.text, String.toList_append, String.toList_append, List.mem_append, List.mem_append]
    exact not_or.2 ⟨not_or.2 ⟨hmessage, hat⟩, (onOneLine_repr p).newline_not_mem⟩
  rcases (refused_isAt hw hr).1 with ⟨e, rfl⟩ | ⟨e, rfl⟩
  · obtain rfl := Option.some.inj hd
    refine htext ?_
    rw [String.toList_append, List.mem_append]
    exact not_or.2 ⟨by decide +kernel, (onOneLine_quoted _).newline_not_mem⟩
  · obtain rfl := Option.some.inj hd
    refine htext (newline_not_mem_message fun h => ?_)
    have hblank : isBlank '\n' = true := by decide +kernel
    rw [isBlank_of_mem_piece hw hr h] at hblank
    cases hblank

/-- A piece at the front of a text that holds none of the characters at its end lies before them. -/
theorem isPrefix_of_append {p cs ends : List Char} (h : p <+: cs ++ ends) (hp : ∀ c ∈ p, c ∉ ends) : p <+: cs := by
  rcases List.prefix_or_prefix_of_prefix h (List.prefix_append cs ends) with hle | ⟨x, rfl⟩
  · exact hle
  · have hx : x <+: ends := (List.prefix_append_right_inj cs).1 h
    cases x with
    | nil => exact ⟨[], by simp⟩
    | cons c x => exact absurd (hx.subset List.mem_cons_self) (hp c (List.mem_append_right _ List.mem_cons_self))

/-- A refusal is about a place of the line without its end as it is about one of the whole line: what it names stands there, or
it is about the end of the line, or beyond. -/
theorem Line.Refusal.IsAt.within_lineBody {i : Nat} (h : r.IsAt source.toList i)
    (hblank : ∀ c ∈ r.piece.toList, isBlank c = false) :
    (i < (lineBody source.toList).length → r.piece ≠ "" ∧ r.piece.toList <+: (lineBody source.toList).drop i) ∧
      ((lineBody source.toList).length ≤ i → ∃ e, r = .reading (.refused e) ∧ e.met? = some .endMark) := by
  obtain ⟨ends, hends, hend⟩ := exists_lineBody_append source.toList
  have hpiece : ∀ c ∈ r.piece.toList, c ∉ ends := by
    intro c hc hce
    have hcblank := isBlank_of_isLineEnd (hend c hce)
    rw [hblank c hc] at hcblank
    cases hcblank
  generalize lineBody source.toList = line at hends
  have hwithin := h.within
  rw [hends] at hwithin
  constructor
  · intro hi
    obtain ⟨hne, hstarts⟩ := hwithin (by rw [List.length_append]; omega)
    rw [List.drop_append_of_le_length hi.le] at hstarts
    exact ⟨hne, isPrefix_of_append hstarts hpiece⟩
  · intro hi
    refine h.atEnd.1 (Decidable.byContradiction fun hne => ?_)
    obtain ⟨hpne, hstarts⟩ := hwithin (by have := h.le; rw [← hends]; omega)
    rw [List.drop_append, List.drop_of_length_le hi, List.nil_append] at hstarts
    obtain ⟨c, cs, hc⟩ := List.exists_cons_of_ne_nil fun hnil => hpne (String.toList_eq_nil_iff.1 hnil)
    have hmem : c ∈ r.piece.toList := by rw [hc]; exact List.mem_cons_self
    exact hpiece c hmem (List.mem_of_mem_drop (hstarts.subset hmem))

end

/-- Under a width that some integer fits, the report of an error of a line, which holds no line feed before its end, is three
lines: the text of the error, the line after a margin, and a caret, the only one of its line. The caret stands in the column of
the place of the error, whatever the width of tabs. Within the line the piece that the error names stands there; else the error
is a syntax error that met the end mark, and the caret stands one past the line. -/
theorem caret_points_at {w : Width} (hw : w.Proper) {source : String} {r : Line.Refusal}
    (hr : Line.evaluate w source = .error r) (hline : '\n' ∉ lineBody source.toList) :
    ∃ (d : Diagnostic) (i : Nat) (marker : List Char), r.diagnostic? = some d ∧ d.position = some (i : Int) ∧
      (d.report source).toList.splitOn '\n' =
        [d.text.toList, "   1 | ".toList ++ lineBody source.toList, marker ++ ['^']] ∧
      '^' ∉ marker ∧
      (∀ tab, columnAfter tab marker =
        columnAfter tab ("   1 | ".toList ++ (lineBody source.toList).take (min i (lineBody source.toList).length))) ∧
      (i < (lineBody source.toList).length → r.piece ≠ "" ∧ r.piece.toList <+: (lineBody source.toList).drop i) ∧
      ((lineBody source.toList).length ≤ i → (∃ e, r = .reading (.refused e) ∧ e.met? = some .endMark) ∧
        marker.length = ("   1 | ".toList ++ lineBody source.toList).length) := by
  obtain ⟨-, i, hi⟩ := refused_isAt hw hr
  obtain ⟨d, hd, hposition⟩ := Option.bind_eq_some_iff.1 hi.position
  obtain ⟨hwithin, hbeyond⟩ := hi.within_lineBody fun c hc => isBlank_of_mem_piece hw hr hc
  exact ⟨d, i, markerAt (lineBody source.toList) i, hd, hposition,
    splitOn_report hposition (newline_not_mem_text hw hr hd) hline, not_mem_map_blankFor (by decide) (by decide) _,
    fun tab => columnAfter_markerAt tab _ i, hwithin, fun hle => ⟨hbeyond hle, length_markerAt hle⟩⟩

/-- A sum that ends before its second term, with a tab and a line end of two characters, which the position counts. -/
theorem caret_points_at_end :
    (Width.bits 16).Proper ∧
      Line.evaluate (.bits 16) "7\t+\r\n" = .error (.reading (.refused ⟨.unexpected .number, Token.endOfLine 5⟩)) ∧
      '\n' ∉ lineBody "7\t+\r\n".toList ∧
      ∃ marker : List Char, ((Diagnostic.mk "Expected: `number`, got: `eof`" (some 5)).report "7\t+\r\n").toList.splitOn '\n' =
          ["Expected: `number`, got: `eof` at position: 5".toList, "   1 | 7\t+".toList, marker ++ ['^']] ∧
        '^' ∉ marker ∧ (∀ tab, columnAfter tab marker = columnAfter tab "   1 | 7\t+".toList) ∧ marker.length = 10 := by
  have hw : (Width.bits 16).Proper := by decide
  have hr : Line.evaluate (.bits 16) "7\t+\r\n" =
      .error (.reading (.refused ⟨.unexpected .number, Token.endOfLine 5⟩)) := by decide +kernel
  have hbody : lineBody "7\t+\r\n".toList = "7\t+".toList := by decide +kernel
  have hline : '\n' ∉ lineBody "7\t+\r\n".toList := by decide +kernel
  obtain ⟨d, i, marker, hd, hi, hlines, honly, hcolumn, -, hend⟩ := caret_points_at hw hr hline
  obtain rfl := Option.some.inj hd
  obtain rfl : 5 = i := Int.ofNat.inj (Option.some.inj hi)
  rw [hbody] at hlines hcolumn hend
  have hlength : "7\t+".toList.length = 3 := by decide +kernel
  have htext : (Diagnostic.mk "Expected: `number`, got: `eof`" (some 5)).text.toList =
      "Expected: `number`, got: `eof` at position: 5".toList := by decide +kernel
  refine ⟨hw, hr, hline, marker, ?_, honly, hcolumn, (hend (by rw [hlength]; decide)).2⟩
  rw [← htext]
  exact hlines

end Reckoner
