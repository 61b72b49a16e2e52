import Reckoner.Session

/-!
# The program

Reads the arguments, the one file that the session needs and, if the session asks for it, a line of the standard input;
everything else is `Session.run`.
-/

namespace Reckoner

/-- The environment variable that names the path of the settings. -/
def environmentVariable : String := "LINECALC_CONFIG"

/-- What a path of the file system leads to. -/
def lookUp (p : Path) : IO Lookup := do
  try
    return .found (.file (← IO.FS.readBinFile p.text))
  catch
    | .noFileOrDirectory .. => return .nowhere
    | .invalidArgument .. => return .tooLong
    | _ => return .found .folder

/-- The path of the settings that an invocation needs. -/
def neededPath (environment : Option String) : Invocation → Path
  | .notice _ | .impossible => Settings.usualPath
  | .evaluate _ switches => (Session.namedPath environment switches.config).getD Settings.usualPath

/-- Writes an outcome, as far as it is not written yet, and gives its exit code. -/
def writeOutcome (alreadyWritten : Nat) (outcome : Outcome) : IO UInt32 := do
  IO.print (String.ofList (outcome.output.toList.drop alreadyWritten))
  IO.eprint outcome.errors
  match outcome.breakdown with
  | some b => IO.eprintln (b.message?.getD "the settings are not UTF-8")
  | none => pure ()
  return UInt32.ofNat outcome.exitCode

end Reckoner

open Reckoner in
/-- One session with the arguments of the command line. -/
def main (args : List String) : IO UInt32 := do
  match Invocation.ofArguments? args with
  | none =>
    IO.eprintln (Session.noticeText .help)
    return 2
  | some invocation =>
    let environment ← IO.getEnv environmentVariable
    let path := neededPath environment invocation
    let result ← lookUp path
    let files : Files := fun p => if p = path then result else .nowhere
    match Session.prompt? files environment invocation with
    | some prompt =>
      IO.print prompt
      (← IO.getStdout).flush
      let input ← (← IO.getStdin).getLine
      writeOutcome prompt.length (Session.run files environment input invocation)
    | none => writeOutcome 0 (Session.run files environment "" invocation)
