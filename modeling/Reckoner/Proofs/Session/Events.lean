import Reckoner.Proofs.Session.Input
import Reckoner.Proofs.Settings.Range

/-!
# Events: to show them changes nothing else

Events are shown among the notes of a session if its level reaches down to them: if the switch for them is on, or the settings
set this level. Two sessions that differ in nothing but these do the same, events apart (`run_sameButEvents`). The switch may stand
wherever a switch is read (`ofArguments?_loud`), and the level in any file that holds the settings (`resolve_cases`).
`events_do_not_interfere` puts these together.
-/

namespace Reckoner

/-! ## What differs, and what does not -/

/-- The text of a note that is a report. -/
def Note.report? : Note → Option String
  | .event _ => none
  | .report s => some s

/-- The record of a note that shows an event. -/
def Note.record? : Note → Option Record
  | .event r => some r
  | .report _ => none

namespace Outcome

/-- The reports among the notes of a session. -/
def reports (o : Outcome) : List String := o.notes.filterMap Note.report?

/-- The records of the events among the notes of a session. -/
def records (o : Outcome) : List Record := o.notes.filterMap Note.record?

/-- Two sessions end alike and write the same, events apart. Of sessions that break down the reports do not matter. -/
structure SameButEvents (o o' : Outcome) : Prop where
  exitCode : o.exitCode = o'.exitCode
  output : o.output = o'.output
  breakdown : o.breakdown = o'.breakdown
  reports : o.breakdown = none → o.reports = o'.reports

theorem SameButEvents.refl (o : Outcome) : SameButEvents o o := ⟨rfl, rfl, rfl, fun _ => rfl⟩

end Outcome

/-- The same invocation, with the switch on that shows every event. -/
def Invocation.loud : Invocation → Invocation
  | .evaluate line switches => .evaluate line { switches with verbose := true }
  | i => i

namespace Settings

/-- The same settings, at the level of all events. -/
def loud (s : Settings) : Settings := { s with level := .debug }

/-- The record of settings in the content of a file, if there is a document in it. -/
def record? (content : ByteArray) : Option Plain :=
  match String.fromUTF8? content with
  | none => none
  | some text =>
    match Toml.Document.ofText text with
    | .error _ => none
    | .ok fields => some ((Plain.field? recordName fields).getD (.record []))

/-- Two records hold the same fields, the level apart, and settings both. -/
structure SameButLevel (fields fields' : List (String × Plain)) : Prop where
  left : ∃ s, ofPlain (.record fields) = .ok s
  right : ∃ s, ofPlain (.record fields') = .ok s
  others : ∀ name, name ≠ "log_level" → Plain.field? name fields = Plain.field? name fields'

end Settings

/-- Every path leads to the same, or to files of settings that are the same but for the level. -/
def Files.SameButLevel (files files' : Files) : Prop :=
  ∀ path, files path = files' path ∨ ∃ content content' fields fields',
    files path = .found (.file content) ∧ files' path = .found (.file content') ∧
    Settings.record? content = some (.record fields) ∧ Settings.record? content' = some (.record fields') ∧
    Settings.SameButLevel fields fields'

namespace Session

/-- The level of a session under settings. -/
def level (switches : Switches) (s : Settings) : Level := if switches.verbose then .debug else s.level

/-- The level of the session of an invocation, if it comes to a line. -/
def level? (files : Files) (environment : Option String) : Invocation → Option Level
  | .evaluate _ switches =>
    match Settings.resolve files (namedPath environment switches.config) with
    | .ok s => some (level switches s)
    | .error _ => none
  | _ => none

end Session

/-! ## Settings -/

namespace Settings

section

variable {s s' : Settings} {fields fields' : List (String × Plain)}

/-- Records that are the same but for the level hold the same settings but for the level. -/
theorem loud_ofPlain (h : SameButLevel fields fields') (hs : ofPlain (.record fields) = .ok s)
    (hs' : ofPlain (.record fields') = .ok s') : s.loud = s'.loud := by
  obtain ⟨_, hfields, hread⟩ := ofPlain_eq_ok_iff.1 hs
  obtain ⟨_, hfields', hread'⟩ := ofPlain_eq_ok_iff.1 hs'
  obtain rfl := Plain.record.inj hfields
  obtain rfl := Plain.record.inj hfields'
  obtain ⟨hprompt, hbits, -⟩ := readFrom_iff.1 hread
  obtain ⟨hprompt', hbits', -⟩ := readFrom_iff.1 hread'
  rw [Check.optional_congr (h.others "prompt" (by decide)), hprompt'] at hprompt
  rw [Check.optional_congr (h.others "int_bits" (by decide)), hbits'] at hbits
  rw [loud, loud, Except.ok.inj hprompt, Except.ok.inj hbits]

/-- Where a file holds a record, its settings are those of the record. -/
theorem ofContent_eq {path : Path} {content : ByteArray} {p : Plain} (h : record? content = some p) :
    ofContent path content = ofRecord path p := by
  cases htext : String.fromUTF8? content with
  | none =>
    simp only [record?, htext] at h
    cases h
  | some text =>
    cases hfields : Toml.Document.ofText text with
    | error e =>
      simp only [record?, htext, hfields] at h
      cases h
    | ok fields =>
      simp only [record?, htext, hfields, Option.some.injEq] at h
      simp only [ofContent, htext, hfields, h]

variable {files files' : Files}

/-- Files that differ in levels alone give the same settings but for the level, or fail alike. -/
theorem load_loud (h : files.SameButLevel files') (path : Path) :
    (load files path).map loud = (load files' path).map loud := by
  rcases h path with heq | ⟨content, content', fields, fields', hfile, hfile', hrecord, hrecord', hsame⟩
  · rw [load, load, heq]
  · obtain ⟨s, hs⟩ := hsame.left
    obtain ⟨s', hs'⟩ := hsame.right
    have hload : load files path = .ok s := by
      simp only [load, hfile, ofContent_eq hrecord, ofRecord, hs]
      rfl
    have hload' : load files' path = .ok s' := by
      simp only [load, hfile', ofContent_eq hrecord', ofRecord, hs']
      rfl
    rw [hload, hload']
    exact congrArg Except.ok (loud_ofPlain hsame hs hs')

/-- So they do whether the settings are named or looked for. -/
theorem resolve_loud (h : files.SameButLevel files') (path : Option Path) :
    (resolve files path).map loud = (resolve files' path).map loud := by
  cases path with
  | none => exact load_loud h usualPath
  | some p =>
    have hload := load_loud h p
    rcases h p with heq | ⟨content, content', _, _, hfile, hfile', _⟩
    · unfold resolve
      simp only [heq]
      split
      · rfl
      · exact hload
    · simpa only [resolve, hfile, hfile'] using hload

/-- A session fails to load its settings alike, or comes to settings that are the same but for the level, if those in the files
are. -/
theorem resolve_cases (h : files.SameButLevel files') (path : Option Path) :
    (∃ e, resolve files path = .error e ∧ resolve files' path = .error e) ∨
      ∃ s s', resolve files path = .ok s ∧ resolve files' path = .ok s' ∧ s.loud = s'.loud := by
  have hloud := resolve_loud h path
  cases hs : resolve files path with
  | error e =>
    cases hs' : resolve files' path with
    | error e' =>
      rw [hs, hs'] at hloud
      obtain rfl : e = e' := Except.error.inj hloud
      exact .inl ⟨e, rfl, rfl⟩
    | ok s' =>
      rw [hs, hs'] at hloud
      cases hloud
  | ok s =>
    cases hs' : resolve files' path with
    | error e' =>
      rw [hs, hs'] at hloud
      cases hloud
    | ok s' =>
      rw [hs, hs'] at hloud
      exact .inr ⟨s, s', rfl, rfl, Except.ok.inj hloud⟩

end

end Settings

/-! ## Arguments -/

namespace Invocation

section

variable {i i' : Invocation} {front rest : List String} {name : String}

/-- Invocations that differ in the switch for events are the same, or evaluate the same line under otherwise the same switches. -/
theorem eq_or_exists_of_loud (h : i.loud = i'.loud) :
    i = i' ∨ ∃ line tokens tree verbose verbose' config,
      i = .evaluate line ⟨tokens, tree, verbose, config⟩ ∧ i' = .evaluate line ⟨tokens, tree, verbose', config⟩ := by
  cases i with
  | evaluate line switches =>
    cases i' with
    | evaluate line' switches' =>
      obtain ⟨tokens, tree, verbose, config⟩ := switches
      obtain ⟨tokens', tree', verbose', config'⟩ := switches'
      cases h
      exact .inr ⟨line, tokens, tree, verbose, verbose', config, rfl, rfl⟩
    | _ => cases h
  | _ =>
    cases i' with
    | evaluate line' switches' => cases h
    | _ => exact .inl h

/-- The switch for events, in either spelling and wherever a switch is read, changes nothing else of what is asked for. -/
theorem ofArguments?_loud (hfront : "--" ∉ front) (hread : (Arguments.none.read front).isSome)
    (hname : (name, .verbose) ∈ Arguments.showing) :
    ofArguments? (front ++ name :: rest) = (ofArguments? (front ++ rest)).map loud := by
  obtain ⟨a, ha⟩ := Option.isSome_iff_exists.1 hread
  unfold ofArguments?
  rw [Arguments.read_append hfront ha, Arguments.read_append hfront ha, Arguments.read_showing hname, Arguments.read_loud]
  cases a.read rest with
  | none => rfl
  | some b =>
    obtain ⟨lines, tokens, tree, verbose, notice, config⟩ := b
    cases notice with
    | some n => rfl
    | none =>
      simp only [Option.map_some, Arguments.turnOn, Arguments.switches]
      split
      · rfl
      · rcases lines with _ | ⟨line, _ | ⟨line', lines⟩⟩ <;> rfl

end

end Invocation

/-! ## Notes -/

section

variable {level : Level} {rs : List Record} {ns : List Note}

/-- Shown events are no reports. -/
theorem filterMap_report?_eventNotes :
    (Session.eventNotes level rs ++ ns).filterMap Note.report? = ns.filterMap Note.report? := by
  have hevents : ∀ rs : List Record, (rs.map Note.event).filterMap Note.report? = [] := by
    intro rs
    rw [List.filterMap_map]
    exact List.filterMap_eq_nil_iff.2 fun _ _ => rfl
  unfold Session.eventNotes
  split
  · rw [List.filterMap_append, hevents, List.nil_append]
  · rfl

theorem eventNotes_eq_nil (h : level ≠ .debug) : Session.eventNotes level rs = [] := if_neg h

end

/-! ## Sessions -/

namespace Session

section

variable {files files' : Files} {environment : Option String} {s s' : Settings} {switches switches' : Switches}
  {before line input : String} {i i' : Invocation}

/-- Under settings that differ in the level, and switches that differ in the one for events, a line is evaluated alike. -/
theorem evaluate_sameButEvents (hs : s.loud = s'.loud) (htokens : switches.tokens = switches'.tokens)
    (htree : switches.tree = switches'.tree) :
    Outcome.SameButEvents (evaluate s switches before line) (evaluate s' switches' before line) := by
  have hwidth : s.width = s'.width := by
    show s.loud.width = s'.loud.width
    rw [hs]
  have hreports : ∀ (level level' : Level) (rs rs' : List Record) (ns : List Note),
      (eventNotes level rs ++ ns).filterMap Note.report? = (eventNotes level' rs' ++ ns).filterMap Note.report? := by
    intro level level' rs rs' ns
    rw [filterMap_report?_eventNotes, filterMap_report?_eventNotes]
  have hnone : ∀ (level level' : Level) (rs rs' : List Record),
      (eventNotes level rs).filterMap Note.report? = (eventNotes level' rs').filterMap Note.report? := by
    intro level level' rs rs'
    have h := hreports level level' rs rs' []
    rwa [List.append_nil, List.append_nil] at h
  unfold evaluate
  rw [hwidth, htokens, htree]
  obtain ⟨events, result⟩ := Line.run s'.width line
  rcases result with (e | (e | _ | t)) | r
  · exact ⟨rfl, rfl, rfl, fun _ => hreports _ _ _ _ _⟩
  · exact ⟨rfl, rfl, rfl, fun _ => hreports _ _ _ _ _⟩
  · exact ⟨rfl, rfl, rfl, fun _ => hnone _ _ _ _⟩
  · exact ⟨rfl, rfl, rfl, fun _ => hnone _ _ _ _⟩
  · exact ⟨rfl, rfl, rfl, fun _ => hnone _ _ _ _⟩

/-- Above the level of events none is shown. -/
theorem records_evaluate (h : level switches s ≠ .debug) : (evaluate s switches before line).records = [] := by
  have hnone : ∀ rs, eventNotes (if switches.verbose then .debug else s.level) rs = [] := fun rs => eventNotes_eq_nil h
  unfold evaluate Outcome.records
  obtain ⟨events, result⟩ := Line.run s.width line
  rcases result with (e | (e | _ | t)) | r <;> simp only [hnone] <;> rfl

/-- To evaluate a line comes to the same under settings that differ in the level, with the switch for events or without it,
events apart. -/
theorem run_evaluate_sameButEvents (hfiles : files.SameButLevel files') {line : Option String} {tokens tree verbose verbose' : Bool}
    {config : Option String} : Outcome.SameButEvents
      (run files environment input (.evaluate line ⟨tokens, tree, verbose, config⟩))
      (run files' environment input (.evaluate line ⟨tokens, tree, verbose', config⟩)) := by
  rcases Settings.resolve_cases hfiles (namedPath environment config) with ⟨e, hs, hs'⟩ | ⟨s, s', hs, hs', hloud⟩
  · simp only [run, hs, hs']
    exact .refl _
  · have hbefore : writtenBefore s line = writtenBefore s' line := by
      show writtenBefore s.loud line = writtenBefore s'.loud line
      rw [hloud]
    rw [run_eq_evaluate hs, run_eq_evaluate hs', hbefore]
    exact evaluate_sameButEvents hloud rfl rfl

/-- Invocations that differ in the switch for events come to the same under settings that differ in the level, events apart. -/
theorem run_sameButEvents (hfiles : files.SameButLevel files') (hi : i.loud = i'.loud) :
    Outcome.SameButEvents (run files environment input i) (run files' environment input i') := by
  rcases Invocation.eq_or_exists_of_loud hi with rfl | ⟨line, tokens, tree, verbose, verbose', config, rfl, rfl⟩
  · cases i with
    | notice n => exact .refl _
    | impossible => exact .refl _
    | evaluate line switches => exact run_evaluate_sameButEvents hfiles
  · exact run_evaluate_sameButEvents hfiles

/-- Where a session shows an event, its level is that of events. -/
theorem level?_of_records (h : (run files environment input i).records ≠ []) : level? files environment i = some .debug := by
  cases i with
  | notice n => exact absurd rfl h
  | impossible => exact absurd rfl h
  | evaluate line switches =>
    obtain ⟨tokens, tree, verbose, config⟩ := switches
    cases hs : Settings.resolve files (namedPath environment config) with
    | error e =>
      simp only [run, hs] at h
      cases e <;> exact absurd rfl h
    | ok s =>
      have hlevel : level ⟨tokens, tree, verbose, config⟩ s = .debug :=
        Decidable.byContradiction fun hlevel => h (by rw [run_eq_evaluate hs]; exact records_evaluate hlevel)
      simp only [level?, hs, hlevel]

end

/-- To show events changes nothing else. Sessions whose arguments ask for the same, the switch for events apart, under settings that
are the same, the level apart, end alike and write the same, events apart; none is shown above their level; and to
give this switch, in either spelling and wherever a switch is read, changes nothing else of what the arguments ask for. -/
theorem events_do_not_interfere (environment : Option String) (input : String) :
    (∀ (files files' : Files) (args args' : List String), files.SameButLevel files' →
      (Invocation.ofArguments? args).map Invocation.loud = (Invocation.ofArguments? args').map Invocation.loud →
      Option.Rel Outcome.SameButEvents (ofArguments? files environment input args)
        (ofArguments? files' environment input args')) ∧
    (∀ (files : Files) (i : Invocation), (run files environment input i).records ≠ [] →
      level? files environment i = some .debug) ∧
    (∀ (front rest : List String) (name : String), "--" ∉ front → (Arguments.none.read front).isSome →
      (name, .verbose) ∈ Arguments.showing →
      Invocation.ofArguments? (front ++ name :: rest) = (Invocation.ofArguments? (front ++ rest)).map Invocation.loud) := by
  refine ⟨fun files files' args args' hfiles hargs => ?_, fun files i h => level?_of_records h,
    fun front rest name hfront hread hname => Invocation.ofArguments?_loud hfront hread hname⟩
  unfold ofArguments?
  cases hi : Invocation.ofArguments? args with
  | none =>
    cases hi' : Invocation.ofArguments? args' with
    | none => exact .none
    | some i' =>
      rw [hi, hi'] at hargs
      cases hargs
  | some i =>
    cases hi' : Invocation.ofArguments? args' with
    | none =>
      rw [hi, hi'] at hargs
      cases hargs
    | some i' =>
      rw [hi, hi'] at hargs
      exact .some (run_sameButEvents hfiles (Option.some.inj hargs))

/-- A text at the usual path of settings, and nothing elsewhere. -/
def filesWith (text : String) : Files := fun path =>
  if path = Settings.usualPath then .found (.file text.toUTF8) else .nowhere

/-- A refused line, under settings that show every event, and with the switch for that under the settings of an empty file. -/
theorem events_do_not_interfere_refused :
    (filesWith "linecalc.log_level = 'debug'").SameButLevel (filesWith "") ∧
      (Invocation.ofArguments? ["--tree", "2 * +"]).map Invocation.loud =
        (Invocation.ofArguments? ["--tree", "-v", "2 * +"]).map Invocation.loud ∧
      Option.Rel Outcome.SameButEvents
        (ofArguments? (filesWith "linecalc.log_level = 'debug'") none "" ["--tree", "2 * +"])
        (ofArguments? (filesWith "") none "" ["--tree", "-v", "2 * +"]) ∧
      (run (filesWith "") none "" (.evaluate (some "2 * +") ⟨false, true, true, none⟩)).records ≠ [] ∧
      level? (filesWith "") none (.evaluate (some "2 * +") ⟨false, true, true, none⟩) = some .debug ∧
      "--" ∉ ["--tree"] ∧ (Arguments.none.read ["--tree"]).isSome ∧ ("-v", Switch.verbose) ∈ Arguments.showing ∧
      Invocation.ofArguments? (["--tree"] ++ "-v" :: ["2 * +"]) =
        (Invocation.ofArguments? (["--tree"] ++ ["2 * +"])).map Invocation.loud := by
  have hutf8 : ∀ text : String, String.fromUTF8? text.toUTF8 = some text := fun text => dif_pos text.isValidUTF8
  have hrecord : Settings.record? "linecalc.log_level = 'debug'".toUTF8 =
      some (.record [("log_level", .text "debug")]) := by
    have hdocument : Toml.Document.ofText "linecalc.log_level = 'debug'" =
        .ok [("linecalc", .record [("log_level", .text "debug")])] := by cbv
    simp only [Settings.record?, hutf8, hdocument]
    rfl
  have hempty : Settings.record? "".toUTF8 = some (.record []) := by
    simp only [Settings.record?, hutf8]
    rfl
  have hsame : Settings.SameButLevel [("log_level", .text "debug")] [] := by
    refine ⟨⟨{ level := .debug }, by cbv⟩, ⟨.default, by cbv⟩, fun name hname => ?_⟩
    rw [Plain.field?, List.find?_cons_of_neg (by simpa using Ne.symm hname), List.find?_nil]
    rfl
  have hfiles : (filesWith "linecalc.log_level = 'debug'").SameButLevel (filesWith "") := by
    intro path
    by_cases hpath : path = Settings.usualPath
    · exact .inr ⟨_, _, _, _, if_pos hpath, if_pos hpath, hrecord, hempty, hsame⟩
    · exact .inl ((if_neg hpath).trans (if_neg hpath).symm)
  have hargs : (Invocation.ofArguments? ["--tree", "2 * +"]).map Invocation.loud =
      (Invocation.ofArguments? ["--tree", "-v", "2 * +"]).map Invocation.loud := by decide +kernel
  have hshown : (run (filesWith "") none "" (.evaluate (some "2 * +") ⟨false, true, true, none⟩)).records ≠ [] := by
    decide +kernel
  have hdashes : "--" ∉ ["--tree"] := by decide
  have hread : (Arguments.none.read ["--tree"]).isSome := by decide +kernel
  have hname : ("-v", Switch.verbose) ∈ Arguments.showing := by decide
  obtain ⟨halike, hlevel, hinsert⟩ := events_do_not_interfere none ""
  exact ⟨hfiles, hargs, halike _ _ _ _ hfiles hargs, hshown, hlevel _ _ hshown, hdashes, hread, hname,
    hinsert _ _ _ hdashes hread hname⟩

end Session

end Reckoner
