import Reckoner.Proofs.Expr.Outline
import Reckoner.Proofs.Line.Stages
import Reckoner.Session

/-!
# Ends of a session: a result, a labelled error, or an integer that is too long to be shown

With settings that are loaded, what a line comes to decides how the session of the line ends (`Session.run_ends`). A line that
is refused ends in a labelled error, whatever is to be shown. A line that is accepted ends in its result as long as all that is
to be shown of it can be written out; else the session breaks down, without a label. So a product may be accepted and yet have
no result (`Session.run_long_product`), and a difference may have one only as long as its terms are not asked for
(`Session.run_long_difference`).
-/

namespace Reckoner

/-! ## What is shown of a line -/

namespace Line.Evaluation

/-- The terms of an accepted line can be written out, if they are asked for. -/
def TermsShowable (r : Evaluation) (tree : Bool) : Prop := tree = true → ∀ t ∈ r.expr.terms, Numeral.Writable t.value

/-- All that is to be shown of an accepted line can be written out: its terms if they are asked for, and its value. -/
def Showable (r : Evaluation) (tree : Bool) : Prop := r.TermsShowable tree ∧ Numeral.Writable r.value

/-- The lines that show the terms, where they are asked for and can all be written out. -/
def termLines (r : Evaluation) (tree : Bool) : List String := (r.termLines? tree).getD []

/-- The line that shows the value. -/
def resultLine (r : Evaluation) : String := "result: " ++ r.value.repr

end Line.Evaluation

section

variable {r : Line.Evaluation} {tokens tree : Bool}

/-- Where the terms and their factors can be written out, their lines are there if they are asked for. -/
theorem termLines?_of_termsShowable (hleaves : ∀ n ∈ r.expr.leaves, Numeral.Writable n) (h : r.TermsShowable tree) :
    r.termLines? tree = some (r.termLines tree) := by
  rw [Line.Evaluation.termLines, Line.Evaluation.termLines?]
  cases tree with
  | false => rfl
  | true =>
    rw [if_pos rfl, Expr.givesWhere_outline.eq_some (a := r.expr) ⟨hleaves, h rfl⟩]
    rfl

/-- Lines of the terms are there only if the terms can be written out. -/
theorem termsShowable_of_termLines? {lines : List String} (h : r.termLines? tree = some lines) : r.TermsShowable tree := by
  rintro rfl
  rw [Line.Evaluation.termLines?, if_pos rfl] at h
  obtain ⟨o, ho, -⟩ := Option.map_eq_some_iff.1 h
  exact (Expr.givesWhere_outline.exists_iff.1 ⟨o, ho⟩).2

/-- An accepted line that can be shown is shown up to its value. -/
theorem output_of_showable (hleaves : ∀ n ∈ r.expr.leaves, Numeral.Writable n) (h : r.Showable tree) :
    r.output tokens tree = (linesText (r.tokenLines tokens ++ r.termLines tree ++ [r.resultLine]), none) := by
  obtain ⟨hterms, hvalue⟩ := h
  rw [Line.Evaluation.output, termLines?_of_termsShowable hleaves hterms, givesWhere_written.eq_some hvalue]
  rfl

/-- Of an accepted line that cannot be shown, what comes before its value is shown as far as it can be. -/
theorem output_of_not_showable (h : ¬r.Showable tree) :
    r.output tokens tree = (linesText (r.tokenLines tokens ++ r.termLines tree), some .unwritable) := by
  rw [Line.Evaluation.output, Line.Evaluation.termLines]
  cases hlines : r.termLines? tree with
  | none => simp
  | some lines =>
    have hvalue : ¬Numeral.Writable r.value := fun hvalue => h ⟨termsShowable_of_termLines? hlines, hvalue⟩
    rw [givesWhere_written.eq_none hvalue]
    rfl

end

/-! ## Ends -/

namespace Outcome

/-- A session ends in a result: after what it wrote before and after further lines, the last line shows the value of a line. -/
structure ShowsResult (o : Outcome) (before : String) (shown : List String) (n : Int) : Prop where
  exitCode : o.exitCode = 0
  breakdown : o.breakdown = none
  output : o.output = before ++ linesText (shown ++ ["result: " ++ n.repr])
  notes : ∃ rs : List Record, o.notes = rs.map .event

/-- A session ends in a labelled error, which reports a diagnostic of a line; it writes nothing but that, and events. -/
structure ReportsError (o : Outcome) (before label : String) (d : Diagnostic) (line : String) : Prop where
  exitCode : o.exitCode = 1
  breakdown : o.breakdown = none
  output : o.output = before
  notes : ∃ rs : List Record, o.notes = rs.map .event ++ [labelled label (d.report line ++ "\n")]

/-- A session breaks down at an integer that cannot be written out; the lines that show the value are not reached. What is written
to the standard error is not told: an event of the integer is itself one that cannot be written. -/
structure BreaksDown (o : Outcome) (before : String) (shown : List String) : Prop where
  exitCode : o.exitCode = 1
  breakdown : o.breakdown = some .unwritable
  output : o.output = before ++ linesText shown

variable {o : Outcome} {before : String} {shown : List String}

/-- A run that breaks down shows no result. -/
theorem BreaksDown.not_showsResult (h : o.BreaksDown before shown) (before' : String) (shown' : List String) (n : Int) :
    ¬o.ShowsResult before' shown' n := by
  intro h'
  have hcode := h.exitCode
  rw [h'.exitCode] at hcode
  cases hcode

theorem BreaksDown.not_reportsError (h : o.BreaksDown before shown) (before' label : String) (d : Diagnostic)
    (line : String) : ¬o.ReportsError before' label d line := by
  intro h'
  have hnone := h.breakdown
  rw [h'.breakdown] at hnone
  cases hnone

end Outcome

/-! ## The evaluation of a line -/

namespace Session

section

variable {s : Settings} {switches : Switches} {before line : String} {r : Line.Evaluation}

/-- The notes of events are no reports. -/
theorem exists_eventNotes (level : Level) (rs : List Record) : ∃ rs' : List Record, eventNotes level rs = rs'.map .event := by
  unfold eventNotes
  split
  · exact ⟨rs, rfl⟩
  · exact ⟨[], rfl⟩

/-- The run of a line ends in what the line comes to. -/
theorem exists_events (w : Width) (line : String) : ∃ events, Line.run w line = (events, Line.evaluate w line) := ⟨_, rfl⟩

/-- An accepted line that can be shown ends in its result. -/
theorem evaluate_showsResult (hw : s.width.Proper) (hr : Line.evaluate s.width line = .ok r) (h : r.Showable switches.tree) :
    (evaluate s switches before line).ShowsResult before (r.tokenLines switches.tokens ++ r.termLines switches.tree)
      r.value := by
  obtain ⟨events, hrun⟩ := exists_events s.width line
  have hleaves : ∀ n ∈ r.expr.leaves, Numeral.Writable n := fun n hn => (legible_of_parse hw (parse_of_evaluate hr).1 n hn).1
  unfold evaluate
  rw [hrun, hr]
  simp only [output_of_showable hleaves h]
  exact ⟨rfl, rfl, rfl, exists_eventNotes _ _⟩

/-- An accepted line that cannot be shown breaks its session down. -/
theorem evaluate_breaksDown (hr : Line.evaluate s.width line = .ok r) (h : ¬r.Showable switches.tree) :
    (evaluate s switches before line).BreaksDown before (r.tokenLines switches.tokens ++ r.termLines switches.tree) := by
  obtain ⟨events, hrun⟩ := exists_events s.width line
  unfold evaluate
  rw [hrun, hr]
  simp only [output_of_not_showable h]
  exact ⟨rfl, rfl, rfl⟩

/-- A line that cannot be scanned is reported as an error of the lexer. -/
theorem evaluate_reports_scan {e : ScanError} (he : Line.evaluate s.width line = .error (.scan e)) :
    (evaluate s switches before line).ReportsError before "lexer-error" e.diagnostic line := by
  obtain ⟨events, hrun⟩ := exists_events s.width line
  unfold evaluate
  rw [hrun, he]
  obtain ⟨rs, hrs⟩ := exists_eventNotes (if switches.verbose then .debug else s.level) (events.filterMap Line.Event.record?)
  exact ⟨rfl, rfl, rfl, rs, congrArg (· ++ [_]) hrs⟩

/-- A line with a syntax error is reported as an error of the parser. -/
theorem evaluate_reports_syntax {e : SyntaxError} (he : Line.evaluate s.width line = .error (.reading (.refused e))) :
    (evaluate s switches before line).ReportsError before "parser-error" e.diagnostic line := by
  obtain ⟨events, hrun⟩ := exists_events s.width line
  unfold evaluate
  rw [hrun, he]
  obtain ⟨rs, hrs⟩ := exists_eventNotes (if switches.verbose then .debug else s.level)
    (events.filterMap Line.Event.record? ++ [e.record])
  exact ⟨rfl, rfl, rfl, rs, congrArg (· ++ [_]) hrs⟩

end

/-! ## Sessions with settings -/

/-- The line of a session: the one that is given, without the line ends at its end, or else the first of the input. -/
def lineOf (input : String) : Option String → String
  | some line => String.ofList (lineBody line.toList)
  | none => firstLine input

/-- What a session writes before it has its line: its prompt, if no line is given. -/
def writtenBefore (s : Settings) : Option String → String
  | some _ => ""
  | none => written s.prompt

variable {files : Files} {environment config line : Option String} {s : Settings} {input : String} {r : Line.Evaluation}
  {tokens tree verbose : Bool}

/-- With settings that are loaded, a session is the evaluation of its line. -/
theorem run_eq_evaluate (hs : Settings.resolve files (namedPath environment config) = .ok s) (input : String)
    (line : Option String) (tokens tree verbose : Bool) :
    run files environment input (.evaluate line ⟨tokens, tree, verbose, config⟩) =
      evaluate s ⟨tokens, tree, verbose, config⟩ (writtenBefore s line) (lineOf input line) := by
  unfold run
  simp only [hs]
  cases line <;> rfl

/-- A run shows its result if all that it is to show can be written out. -/
theorem run_showsResult (hs : Settings.resolve files (namedPath environment config) = .ok s)
    (hr : Line.evaluate s.width (lineOf input line) = .ok r) (h : r.Showable tree) :
    (run files environment input (.evaluate line ⟨tokens, tree, verbose, config⟩)).ShowsResult (writtenBefore s line)
      (r.tokenLines tokens ++ r.termLines tree) r.value := by
  rw [run_eq_evaluate hs]
  exact evaluate_showsResult (Settings.inRange_of_resolve hs).proper hr h

/-- A run breaks down if something that it is to show cannot be written out. -/
theorem run_breaksDown (hs : Settings.resolve files (namedPath environment config) = .ok s)
    (hr : Line.evaluate s.width (lineOf input line) = .ok r) (h : ¬r.Showable tree) :
    (run files environment input (.evaluate line ⟨tokens, tree, verbose, config⟩)).BreaksDown (writtenBefore s line)
      (r.tokenLines tokens ++ r.termLines tree) := by
  rw [run_eq_evaluate hs]
  exact evaluate_breaksDown hr h

/-- With settings that are loaded, the line of a session is accepted, fails to be scanned or breaks the grammar. If it fails or
breaks it, the session ends in a labelled error, whatever is to be shown. If it is accepted, the session ends in the result,
as long as all that is to be shown can be written out, and else breaks down. -/
theorem run_ends (hs : Settings.resolve files (namedPath environment config) = .ok s) (input : String)
    (line : Option String) :
    (∃ r, Line.evaluate s.width (lineOf input line) = .ok r ∧ ∀ tokens tree verbose,
        (r.Showable tree → (run files environment input (.evaluate line ⟨tokens, tree, verbose, config⟩)).ShowsResult
          (writtenBefore s line) (r.tokenLines tokens ++ r.termLines tree) r.value) ∧
        (¬r.Showable tree → (run files environment input (.evaluate line ⟨tokens, tree, verbose, config⟩)).BreaksDown
          (writtenBefore s line) (r.tokenLines tokens ++ r.termLines tree))) ∨
      (∃ e, Line.evaluate s.width (lineOf input line) = .error (.scan e) ∧ ∀ tokens tree verbose,
        (run files environment input (.evaluate line ⟨tokens, tree, verbose, config⟩)).ReportsError
          (writtenBefore s line) "lexer-error" e.diagnostic (lineOf input line)) ∨
      ∃ e, Line.evaluate s.width (lineOf input line) = .error (.reading (.refused e)) ∧ ∀ tokens tree verbose,
        (run files environment input (.evaluate line ⟨tokens, tree, verbose, config⟩)).ReportsError
          (writtenBefore s line) "parser-error" e.diagnostic (lineOf input line) := by
  have hw := (Settings.inRange_of_resolve hs).proper
  cases hr : Line.evaluate s.width (lineOf input line) with
  | ok r => exact .inl ⟨r, rfl, fun _ _ _ => ⟨run_showsResult hs hr, run_breaksDown hs hr⟩⟩
  | error refusal =>
    simp only [run_eq_evaluate hs]
    rcases (refused_isAt hw hr).1 with ⟨e, rfl⟩ | ⟨e, rfl⟩
    · exact .inr (.inl ⟨e, rfl, fun _ _ _ => evaluate_reports_scan hr⟩)
    · exact .inr (.inr ⟨e, rfl, fun _ _ _ => evaluate_reports_syntax hr⟩)

/-- A line from the input that lacks its last factor: besides the prompt and events only the error is written. -/
theorem run_ends_dangling :
    Settings.resolve (fun _ => .nowhere) (namedPath none none) = .ok .default ∧ ∀ tokens tree verbose,
      (run (fun _ => .nowhere) none "2 *\n3" (.evaluate none ⟨tokens, tree, verbose, none⟩)).ReportsError " > " "parser-error"
        (SyntaxError.diagnostic ⟨.unexpected .number, Token.endOfLine 3⟩) "2 *" := by
  have hs : Settings.resolve (fun _ => .nowhere) (namedPath none none) = .ok .default := rfl
  have hline : lineOf "2 *\n3" none = "2 *" := by decide +kernel
  have hwritten : writtenBefore .default none = " > " := by decide +kernel
  have herror : Line.evaluate Settings.default.width "2 *" =
      .error (.reading (.refused ⟨.unexpected .number, Token.endOfLine 3⟩)) := by decide +kernel
  have hends := run_ends hs "2 *\n3" none
  rw [hline, hwritten, herror] at hends
  rcases hends with ⟨r, hr, -⟩ | ⟨e, he, -⟩ | ⟨e, he, hreports⟩
  · cases hr
  · cases he
  · cases he
    exact ⟨hs, hreports⟩

end Session

/-! ## Lines without a result -/

namespace Session

section

variable {files : Files} {environment config : Option String} {s : Settings} {input : String} {t : Term}
  {tokens verbose : Bool}

/-- What an expression of legible integers is written as is a line that is accepted as that expression. -/
theorem exists_evaluation {w : Width} (hw : w.Proper) {e : Expr} (he : ∀ n ∈ e.leaves, Numeral.Writable n ∧ Legible w n)
    (input : String) : ∃ r, Line.evaluate w (lineOf input (some e.render)) = .ok r ∧ r.expr = e ∧ r.value = e.value := by
  have hline : lineOf input (some e.render) = e.render := by
    rw [lineOf, lineBody_render, String.ofList_toList]
  obtain ⟨r, hr, hexpr⟩ := exists_of_map_evaluate (parse_render_of_legible hw he)
  rw [hline]
  exact ⟨r, hr, hexpr, by rw [(parse_of_evaluate hr).2, hexpr]⟩

/-- A product that is too long to be shown has no result, though its factors are literals of the width. -/
theorem run_long_product (hs : Settings.resolve files (namedPath environment config) = .ok s)
    (ht : ∀ n ∈ t.factors, Numeral.Writable n ∧ Legible s.width n) (hlong : ¬Numeral.Writable t.value) (tree : Bool) :
    ∃ shown, (run files environment input (.evaluate (some (Expr.render ⟨t, []⟩)) ⟨tokens, tree, verbose, config⟩)).BreaksDown
      "" shown := by
  have hleaves : ∀ n ∈ Expr.leaves ⟨t, []⟩, Numeral.Writable n ∧ Legible s.width n := by
    simpa [Expr.leaves, Expr.terms] using ht
  obtain ⟨r, hr, -, hvalue⟩ := exists_evaluation (Settings.inRange_of_resolve hs).proper hleaves input
  refine ⟨_, run_breaksDown hs hr ?_⟩
  rintro ⟨-, hshort⟩
  rw [hvalue] at hshort
  exact hlong hshort

/-- The difference of such a product and itself has the result 0, but none if its terms are asked for. -/
theorem run_long_difference (hs : Settings.resolve files (namedPath environment config) = .ok s)
    (ht : ∀ n ∈ t.factors, Numeral.Writable n ∧ Legible s.width n) (hlong : ¬Numeral.Writable t.value) :
    (∃ shown, (run files environment input
        (.evaluate (some (Expr.render ⟨t, [(.minus, t)]⟩)) ⟨tokens, false, verbose, config⟩)).ShowsResult "" shown 0) ∧
      ∃ shown, (run files environment input
        (.evaluate (some (Expr.render ⟨t, [(.minus, t)]⟩)) ⟨tokens, true, verbose, config⟩)).BreaksDown "" shown := by
  have hleaves : ∀ n ∈ Expr.leaves ⟨t, [(.minus, t)]⟩, Numeral.Writable n ∧ Legible s.width n := by
    intro n hn
    simp only [Expr.leaves, Expr.terms, List.map_cons, List.map_nil, List.flatMap_cons, List.flatMap_nil, List.append_nil,
      List.mem_append, or_self] at hn
    exact ht n hn
  obtain ⟨r, hr, hexpr, hvalue⟩ := exists_evaluation (Settings.inRange_of_resolve hs).proper hleaves input
  have hzero : r.value = 0 := hvalue.trans (Int.sub_self _)
  constructor
  · have hshowable : r.Showable false := by
      refine ⟨fun h => absurd h Bool.false_ne_true, ?_⟩
      rw [hzero]
      decide +kernel
    rw [← hzero]
    exact ⟨_, run_showsResult hs hr hshowable⟩
  · refine ⟨_, run_breaksDown hs hr ?_⟩
    rintro ⟨hterms, -⟩
    have hterm : t ∈ r.expr.terms := by
      rw [hexpr]
      exact List.mem_cons_self
    exact hlong (hterms rfl t hterm)

end

/-- The session of arguments where there are no files, no settings are named and the input is empty. -/
def bare? (args : List String) : Option Outcome := (Invocation.ofArguments? args).map (run (fun _ => .nowhere) none "")

/-- A line is given after two dashes, so that nothing of it is a switch. -/
theorem bare?_line (line : String) : bare? ["--", line] =
    some (run (fun _ => .nowhere) none "" (.evaluate (some line) ⟨false, false, false, none⟩)) := rfl

theorem bare?_tree_line (line : String) : bare? ["--tree", "--", line] =
    some (run (fun _ => .nowhere) none "" (.evaluate (some line) ⟨false, true, false, none⟩)) := rfl

/-- A product of 478 factors, each of which fits the width, ends neither in a result nor in a labelled error. The difference of
that product and itself ends in a result, but not if its terms are asked for. -/
theorem run_power :
    (∃ o shown, bare? ["--", Expr.render ⟨.power 1000000000 477, []⟩] = some o ∧ o.BreaksDown "" shown ∧
        (∀ before shown n, ¬o.ShowsResult before shown n) ∧ ∀ before label d line, ¬o.ReportsError before label d line) ∧
      (∃ o shown, bare? ["--", Expr.render ⟨.power 1000000000 477, [(.minus, .power 1000000000 477)]⟩] = some o ∧
        o.ShowsResult "" shown 0) ∧
      ∃ o shown, bare? ["--tree", "--", Expr.render ⟨.power 1000000000 477, [(.minus, .power 1000000000 477)]⟩] = some o ∧
        o.BreaksDown "" shown := by
  have hs : Settings.resolve (fun _ => .nowhere) (namedPath none none) = .ok .default := rfl
  have hfactors : ∀ n ∈ (Term.power 1000000000 477).factors, Numeral.Writable n ∧ Legible Settings.default.width n := by
    decide +kernel
  obtain ⟨shown, hdown⟩ := run_long_product hs hfactors not_writable_power false
  obtain ⟨⟨shown', hshows⟩, shown'', hdown'⟩ := run_long_difference hs hfactors not_writable_power
  refine ⟨⟨_, shown, bare?_line _, hdown, hdown.not_showsResult, hdown.not_reportsError⟩, ?_, ?_⟩
  · exact ⟨_, shown', bare?_line _, hshows⟩
  · exact ⟨_, shown'', bare?_tree_line _, hdown'⟩

end Session

end Reckoner
