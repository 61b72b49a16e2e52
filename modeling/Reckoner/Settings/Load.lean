import Reckoner.Diagnostic
import Reckoner.Directory
import Reckoner.Settings
import Reckoner.Toml.Document

/-!
# Loading settings from a file

Settings are the record `linecalc` of a configuration document. Where the file or the record is absent, the defaults hold. A
load fails with a diagnostic where the path leads to a folder, the text breaks the grammar or the settings are invalid. It
breaks down, without a diagnostic of its own, where the path is too long, the content is not UTF-8 or a decimal integer
exceeds the longest numeral.
-/

namespace Reckoner.Settings

/-- Why a file gives no document. -/
inductive Unreadable where
  | folder
  | malformed
  deriving DecidableEq, Repr

/-- Why no settings are loaded. -/
inductive LoadError where
  /-- A path was named that leads nowhere. -/
  | absent (path : Path)
  | unreadable (path : Path) (cause : Unreadable)
  | invalid (path : Path) (violations : List Violation)
  /-- The path is too long to lead anywhere or nowhere. -/
  | tooLong (path : Path)
  /-- The content of the file is not UTF-8. -/
  | undecodable
  /-- A decimal integer has more digits than the longest numeral. -/
  | oversized (digits : Nat)
  deriving DecidableEq, Repr

/-- The diagnostic of a failure, which is about no place in any line; a report of details may follow it. A breakdown has
none. -/
def LoadError.diagnostic? : LoadError → Option Diagnostic
  | .absent p => some ⟨"Config file not found: " ++ p.text, none⟩
  | .unreadable p _ => some ⟨"Cannot read " ++ p.text, none⟩
  | .invalid p _ => some ⟨"Invalid configuration in " ++ p.text ++ ":", none⟩
  | .tooLong _ | .undecodable | .oversized _ => none

/-- The name of the record that holds the settings. -/
def recordName : String := "linecalc"

/-- The settings that a decoded record holds, under the path it is said to come from. -/
def ofRecord (path : Path) (p : Plain) : Except LoadError Settings :=
  (ofPlain p).mapError (.invalid path)

/-- The settings that the content of a file gives. -/
def ofContent (path : Path) (content : ByteArray) : Except LoadError Settings :=
  match String.fromUTF8? content with
  | none => .error .undecodable
  | some text =>
    match Toml.Document.ofText text with
    | .error .malformed => .error (.unreadable path .malformed)
    | .error (.oversized n) => .error (.oversized n)
    | .ok fields => ofRecord path ((Plain.field? recordName fields).getD (.record []))

/-- The settings at a path. -/
def load (files : Files) (path : Path) : Except LoadError Settings :=
  match files path with
  | .nowhere => .ok default
  | .tooLong => .error (.tooLong path)
  | .found .folder => .error (.unreadable path .folder)
  | .found (.file content) => ofContent path content

/-- The path at which settings are looked for where no path is named. -/
def usualPath : Path := ⟨"", ["linecalc.toml"]⟩

/-- The settings at the path that is named, which has to lead somewhere, or else those at the usual path. -/
def resolve (files : Files) : Option Path → Except LoadError Settings
  | none => load files usualPath
  | some p =>
    match files p with
    | .nowhere => .error (.absent p)
    | _ => load files p

end Reckoner.Settings
