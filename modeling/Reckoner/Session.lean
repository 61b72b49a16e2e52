import Reckoner.Invocation
import Reckoner.Report
import Reckoner.Settings.Load
import Reckoner.Text.ControlSequence

/-!
# Sessions: one run of the program, from its arguments to what it writes

A session loads its settings, takes a line from its arguments or, after a prompt, from the standard input, and evaluates it.
It ends with the value of the line or with a report under a label. It breaks down where an integer to be written exceeds the
longest numeral, where the path of the settings is none or too long, or where settings cannot be decoded; then it ends without
a label. Events are shown in the order in which they happen, among the reports, if the level of the session reaches down to
them. What is written elsewhere than in events is written without control sequences. Two things that are written about events
are left out: the time in front of each, and the complaint in place of one that cannot be written.
-/

namespace Reckoner

/-! ## Events -/

/-- What is shown of an event: where it happened, and what. -/
structure Record where
  origin : String
  text : String
  deriving DecidableEq, Repr

/-- The record of a refused expression. -/
def SyntaxError.record (e : SyntaxError) : Record := ⟨"linecalc.cli", "Parse failed with " ++ e.category⟩

/-- The record of an event. There is none of a value that cannot be written out; the complaint that is written to the standard
error in its place, with a trace of the calls that led to it, is left out. -/
def Line.Event.record? : Line.Event → Option Record
  | .running line => some ⟨"linecalc.core.pipeline", "Running line " ++ quoted line⟩
  | .scanned count line =>
    some ⟨"linecalc.core.lexer", "Scanned " ++ count.repr ++ " token(s) from " ++ quoted line⟩
  | .parsed expr => some ⟨"linecalc.core.parser", "Parsed expression: " ++ expr.render⟩
  | .evaluated expr value =>
    if Numeral.Writable value then
      some ⟨"linecalc.core.evaluator", "Evaluated " ++ expr.render ++ " = " ++ value.repr⟩
    else none

/-- The line that shows a record, without the time that it begins with. All events are of the lowest level. -/
def Record.line (r : Record) : String := "[" ++ Level.debug.name ++ "] " ++ r.origin ++ ": " ++ r.text ++ "\n"

/-! ## Outcomes -/

/-- Why a session ends without a label. -/
inductive Breakdown where
  /-- The path of the settings holds a null character. -/
  | nullInPath
  /-- The path of the settings is too long. -/
  | pathTooLong (path : Path)
  /-- The settings are not UTF-8. -/
  | undecodable
  /-- An integer in the settings has more digits than the longest numeral. -/
  | oversized (digits : Nat)
  /-- An integer to be written has more digits than the longest numeral. -/
  | unwritable
  /-- The reading of a line fails for a reason that is no error of the line. -/
  | halted (halt : Halt)
  deriving DecidableEq, Repr

/-- What happened, where it is known only by a message. -/
def Breakdown.message? : Breakdown → Option String
  | .nullInPath => some "embedded null byte"
  | .pathTooLong p => some ("[Errno 36] File name too long: " ++ quoted p.text)
  | .undecodable => none
  | .oversized n =>
    some ("Exceeds the limit (4300 digits) for integer string conversion: value has " ++ n.repr ++
      " digits; use sys.set_int_max_str_digits() to increase the limit")
  | .unwritable =>
    some ("Exceeds the limit (4300 digits) for integer string conversion; use sys.set_int_max_str_digits() " ++
      "to increase the limit")
  | .halted h => some h.message

/-- A piece of the standard error: an event that is shown, or a report. -/
inductive Note where
  | event (record : Record)
  | report (text : String)
  deriving DecidableEq, Repr

/-- A note as it is written. -/
def Note.text : Note → String
  | .event r => r.line
  | .report s => s

/-- What a session leaves: its exit code, what it wrote to the standard output, the notes it wrote to the standard error, and
the breakdown that ended it, if one did. After a breakdown over an integer that cannot be written out the notes are those of
the events that could be; what else was written to the standard error about such an event is left out. -/
structure Outcome where
  exitCode : Nat
  output : String
  notes : List Note
  breakdown : Option Breakdown
  deriving DecidableEq, Repr

/-- What a session wrote to the standard error. -/
def Outcome.errors (o : Outcome) : String := String.join (o.notes.map Note.text)

/-- A text as it is written to no terminal. -/
def written (s : String) : String := String.ofList (dropControlSequences s.toList)

/-- A report under a label. -/
def labelled (label report : String) : Note := .report ("[" ++ label ++ "]:\n" ++ written report)

/-! ## Results -/

/-- Lines as they are written, each with its end. -/
def linesText (ls : List String) : String := String.join (ls.map (· ++ "\n"))

namespace Line.Evaluation

/-- The lines that show the tokens, where they are asked for. -/
def tokenLines (r : Evaluation) (tokens : Bool) : List String :=
  if tokens then (tokenGrid r.tokens).lines pageWidth else []

/-- The lines that show the terms, where they are asked for. -/
def termLines? (r : Evaluation) (tree : Bool) : Option (List String) :=
  if tree then r.expr.outline?.map (Layout.Outline.lines pageWidth) else some []

/-- What is shown of an accepted line: its tokens and its terms, where they are asked for, and its value. It ends before the
first of these that cannot be written out. -/
def output (r : Evaluation) (tokens tree : Bool) : String × Option Breakdown :=
  match r.termLines? tree with
  | none => (linesText (r.tokenLines tokens), some .unwritable)
  | some terms =>
    match Numeral.written? r.value with
    | some value => (linesText (r.tokenLines tokens ++ terms ++ ["result: " ++ value]), none)
    | none => (linesText (r.tokenLines tokens ++ terms), some .unwritable)

end Line.Evaluation

namespace Session

/-- The version of the program. -/
def version : String := "0.1.0"

/-- The line at the front of an input. Any line end ends it. -/
def firstLine (input : String) : String := String.ofList (input.toList.takeWhile fun c => !isLineEnd c)

/-- The notes of events, as far as a level shows them. -/
def eventNotes (level : Level) (rs : List Record) : List Note :=
  if level = .debug then rs.map .event else []

/-- The evaluation of a line under settings, after what has been written already. -/
def evaluate (s : Settings) (switches : Switches) (before line : String) : Outcome :=
  let level := if switches.verbose then .debug else s.level
  let (events, result) := Line.run s.width line
  let records := events.filterMap Line.Event.record?
  match result with
  | .ok r =>
    let (shown, breakdown) := r.output switches.tokens switches.tree
    ⟨if breakdown.isSome then 1 else 0, before ++ shown, eventNotes level records, breakdown⟩
  | .error (.scan e) =>
    ⟨1, before, eventNotes level records ++ [labelled "lexer-error" (e.diagnostic.report line ++ "\n")], none⟩
  | .error (.reading (.refused e)) =>
    ⟨1, before,
      eventNotes level (records ++ [e.record]) ++ [labelled "parser-error" (e.diagnostic.report line ++ "\n")], none⟩
  | .error (.reading h) => ⟨1, before, eventNotes level records, some (.halted h)⟩

/-- The outcome of a session whose settings are not loaded. Details of a report would follow its colon; they are left to
the reader of the file. -/
def withoutSettings (e : Settings.LoadError) : Outcome :=
  match e with
  | .absent _ => ⟨1, "", [labelled "config-error" (headline ++ "\n")], none⟩
  | .unreadable _ _ => ⟨1, "", [labelled "config-error" (headline ++ ":")], none⟩
  | .invalid _ _ => ⟨1, "", [labelled "config-error" headline], none⟩
  | .tooLong p => ⟨1, "", [], some (.pathTooLong p)⟩
  | .undecodable => ⟨1, "", [], some .undecodable⟩
  | .oversized n => ⟨1, "", [], some (.oversized n)⟩
where
  headline : String := (e.diagnostic?.map Diagnostic.text).getD ""

/-- The path of the settings that is named: by the switch or else by the environment, where an empty name does not count. -/
def namedPath (environment config : Option String) : Option Path :=
  (config <|> environment.filter (· ≠ "")).map Path.ofString

/-- What a notice says. -/
def noticeText : Notice → String
  | .version => "linecalc version " ++ version
  | .help =>
    "Usage: linecalc [--tokens|-t] [--tree] [--verbose|-v] [--config|-c PATH] [--version] [--help] [EXPRESSION]"

/-- The session of an invocation, with the path of the settings that the environment names, and an input. -/
def run (files : Files) (environment : Option String) (input : String) : Invocation → Outcome
  | .notice n => ⟨0, noticeText n ++ "\n", [], none⟩
  | .impossible => ⟨1, "", [], some .nullInPath⟩
  | .evaluate line switches =>
    match Settings.resolve files (namedPath environment switches.config) with
    | .error e => withoutSettings e
    | .ok s =>
      match line with
      | some line => evaluate s switches "" (String.ofList (lineBody line.toList))
      | none => evaluate s switches (written s.prompt) (firstLine input)

/-- What a session writes before it reads its input, if it reads any. -/
def prompt? (files : Files) (environment : Option String) : Invocation → Option String
  | .evaluate none switches =>
    match Settings.resolve files (namedPath environment switches.config) with
    | .ok s => some (written s.prompt)
    | .error _ => none
  | _ => none

end Session

end Reckoner
