import Reckoner.Proofs.Session.Arguments
import Reckoner.Proofs.Session.Ending

/-!
# Input: a line that is read comes to what it comes to as an argument

A line may be given as an argument or read from the input. What ends it there, and what follows its end, does not count
(`firstLine_append`); an argument after two dashes is the line as it stands, whatever it begins with. So both sessions do the
same, but for the prompt that comes first where the line is read (`line_given_or_read`).
-/

namespace Reckoner

/-- What may end a line of the input. -/
def lineEnds : List String := ["\n", "\r", "\r\n"]

/-- What may come after a line in the input: nothing, or an end of the line and then anything. -/
def MayFollowLine (rest : String) : Prop := rest = "" ∨ ∃ e ∈ lineEnds, ∃ more, rest = e ++ more

/-- A session wrote a prompt, and did otherwise what another one did. -/
structure Outcome.IsAfterPrompt (prompt : String) (o o' : Outcome) : Prop where
  exitCode : o'.exitCode = o.exitCode
  output : o'.output = prompt ++ o.output
  notes : o'.notes = o.notes
  errors : o'.errors = o.errors
  breakdown : o'.breakdown = o.breakdown

/-! ## Lines without an end -/

section

variable {line rest : String}

/-- What may follow a line begins with a line end, if it begins at all. -/
theorem isLineEnd_head (h : MayFollowLine rest) : ∀ c ∈ rest.toList.head?, isLineEnd c = true := by
  rcases h with rfl | ⟨e, he, more, rfl⟩
  · intro c hc
    cases hc
  · intro c hc
    rw [String.toList_append] at hc
    simp only [lineEnds, List.mem_cons, List.not_mem_nil, or_false] at he
    rcases he with rfl | rfl | rfl
    all_goals
      obtain rfl := Option.some.inj hc
      rfl

/-- The first line of an input goes up to its end. -/
theorem firstLine_append (h : ∀ c ∈ line.toList, isLineEnd c = false) (hrest : MayFollowLine rest) :
    Session.firstLine (line ++ rest) = line := by
  have hrun : (line.toList ++ rest.toList).takeWhile (fun c => !isLineEnd c) = line.toList := by
    refine takeWhile_run (fun c hc => ?_) fun c hc => ?_
    · rw [h c hc]
      rfl
    · rw [isLineEnd_head hrest c hc]
      rfl
  rw [Session.firstLine, String.toList_append, hrun, String.ofList_toList]

end

/-! ## Sessions of a line -/

namespace Session

/-- The session of the arguments of a command line, if they are understood. -/
def ofArguments? (files : Files) (environment : Option String) (input : String) (args : List String) : Option Outcome :=
  (Invocation.ofArguments? args).map (run files environment input)

section

variable {files : Files} {environment : Option String} {s : Settings} {args : List String} {line rest : String}

/-- What is written before a line is evaluated comes first, and changes nothing else. -/
theorem evaluate_isAfterPrompt (s : Settings) (switches : Switches) (prompt line : String) :
    Outcome.IsAfterPrompt prompt (evaluate s switches "" line) (evaluate s switches prompt line) := by
  unfold evaluate
  obtain ⟨events, result⟩ := Line.run s.width line
  rcases result with (e | (e | _ | t)) | r
  · exact ⟨rfl, String.append_empty.symm, rfl, rfl, rfl⟩
  · exact ⟨rfl, String.append_empty.symm, rfl, rfl, rfl⟩
  · exact ⟨rfl, String.append_empty.symm, rfl, rfl, rfl⟩
  · exact ⟨rfl, String.append_empty.symm, rfl, rfl, rfl⟩
  · exact ⟨rfl, congrArg (prompt ++ ·) String.empty_append.symm, rfl, rfl, rfl⟩

/-- Switches alone ask for the first line of the input, and with a line after two dashes for that line, under the same
switches. -/
theorem exists_invocation (h : ∀ arg ∈ args, arg ∈ Arguments.showing.map Prod.fst) (line : String) :
    ∃ tokens tree verbose, Invocation.ofArguments? args = some (.evaluate none ⟨tokens, tree, verbose, none⟩) ∧
      Invocation.ofArguments? (args ++ ["--", line]) = some (.evaluate (some line) ⟨tokens, tree, verbose, none⟩) := by
  obtain ⟨tokens, tree, verbose, hread⟩ := Arguments.exists_read_showing h .none
  have hdashes : "--" ∉ args := fun hmem => absurd (h _ hmem) (by decide)
  have hread' := Arguments.read_append hdashes hread ["--", line]
  rw [Arguments.read_dashes] at hread'
  refine ⟨tokens, tree, verbose, ?_, ?_⟩
  · unfold Invocation.ofArguments?
    rw [hread]
    rfl
  · unfold Invocation.ofArguments?
    rw [hread']
    rfl

end

/-- A line without an end comes to the same as an argument and in the input, whatever ends it there and follows its end: after
switches that show more of an evaluation, the two sessions do the same, but for the prompt. -/
theorem line_given_or_read {files : Files} {environment : Option String} {s : Settings}
    (hs : Settings.resolve files (namedPath environment none) = .ok s) {args : List String}
    (hargs : ∀ arg ∈ args, arg ∈ Arguments.showing.map Prod.fst) {line rest : String}
    (hline : ∀ c ∈ line.toList, isLineEnd c = false) (hrest : MayFollowLine rest) (input : String) :
    ∃ o o', ofArguments? files environment input (args ++ ["--", line]) = some o ∧
      ofArguments? files environment (line ++ rest) args = some o' ∧ Outcome.IsAfterPrompt (written s.prompt) o o' := by
  obtain ⟨tokens, tree, verbose, hread, hgiven⟩ := exists_invocation hargs line
  have hlineOf : lineOf input (some line) = line := by
    rw [lineOf, lineBody_eq_self hline, String.ofList_toList]
  have hlineOf' : lineOf (line ++ rest) none = line := firstLine_append hline hrest
  refine ⟨_, _, by rw [ofArguments?, hgiven]; rfl, by rw [ofArguments?, hread]; rfl, ?_⟩
  rw [run_eq_evaluate hs, run_eq_evaluate hs, hlineOf, hlineOf']
  exact evaluate_isAfterPrompt s ⟨tokens, tree, verbose, none⟩ (written s.prompt) line

/-- A line that begins with a minus sign and cannot be scanned, with another line after it in the input. -/
theorem line_given_or_read_minus :
    Settings.resolve (fun _ => .nowhere) (namedPath none none) = .ok .default ∧
      (∀ arg ∈ ["-v", "--tree"], arg ∈ Arguments.showing.map Prod.fst) ∧
      (∀ c ∈ "-7 % 2".toList, isLineEnd c = false) ∧ MayFollowLine "\r\n8" ∧
      ∃ o o', ofArguments? (fun _ => .nowhere) none "" (["-v", "--tree"] ++ ["--", "-7 % 2"]) = some o ∧
        ofArguments? (fun _ => .nowhere) none ("-7 % 2" ++ "\r\n8") ["-v", "--tree"] = some o' ∧
          Outcome.IsAfterPrompt " > " o o' := by
  have hs : Settings.resolve (fun _ => .nowhere) (namedPath none none) = .ok .default := rfl
  have hargs : ∀ arg ∈ ["-v", "--tree"], arg ∈ Arguments.showing.map Prod.fst := by decide
  have hnone : "-7 % 2".toList.any isLineEnd = false := by decide +kernel
  have hline : ∀ c ∈ "-7 % 2".toList, isLineEnd c = false := fun c hc => Bool.eq_false_iff.2 (List.any_eq_false.1 hnone c hc)
  have hrest : MayFollowLine "\r\n8" := .inr ⟨"\r\n", by decide, "8", rfl⟩
  have hprompt : written Settings.default.prompt = " > " := by decide +kernel
  obtain ⟨o, o', ho, ho', hafter⟩ := line_given_or_read hs hargs hline hrest ""
  exact ⟨hs, hargs, hline, hrest, o, o', ho, ho', hprompt ▸ hafter⟩

end Session

end Reckoner
