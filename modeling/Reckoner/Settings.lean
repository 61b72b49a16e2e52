import Reckoner.Plain
import Reckoner.Text.Upper

/-!
# Settings: the prompt, the width of literals, and which events are shown

Settings are read from a record of plain values. Each field has a default, and no other field is allowed. The width of
literals is a number of bits from 8 to 128; zero and nothing both mean that literals are unbounded. A level is named in any
mixture of upper and lower case.
-/

namespace Reckoner

/-- How grave an event is, from the least to the most. -/
inductive Level where
  | debug | info | warning | error | critical
  deriving DecidableEq, Repr

/-- The name of a level. -/
def Level.name : Level → String
  | .debug => "DEBUG"
  | .info => "INFO"
  | .warning => "WARNING"
  | .error => "ERROR"
  | .critical => "CRITICAL"

/-- All levels. -/
def Level.all : List Level := [.debug, .info, .warning, .error, .critical]

/-- The level that a text names. -/
def Level.ofName? (s : String) : Option Level :=
  Level.all.find? fun l => l.name.toList == upper s.toList

/-- The settings of a session. -/
structure Settings where
  prompt : String := " > "
  /-- The number of bits that literals have to fit; without one they are unbounded. -/
  literalBits : Option Int := some 32
  level : Level := .warning
  deriving DecidableEq, Repr

namespace Settings

/-- The settings where nothing is set. -/
def default : Settings := {}

/-- The width of literals. -/
def width (s : Settings) : Width :=
  match s.literalBits with
  | none => .unbounded
  | some n => .bits n

/-- The names of the fields. -/
def fieldNames : List String := ["prompt", "int_bits", "log_level"]

/-- A number of bits, or nothing or zero where literals are unbounded. -/
def checkLiteralBits : Plain → Check (Option Int)
  | .null => .ok none
  | p => do
    let n ← p.integer
    if n = 0 then .ok none
    else if 8 ≤ n ∧ n ≤ 128 then .ok (some n)
    else Check.fail (.rule "int_bits must be between 8 and 128, or 0 for unbounded")

/-- The name of a level. -/
def checkLevel (p : Plain) : Check Level := do
  let s ← p.asText
  match Level.ofName? s with
  | some l => .ok l
  | none => Check.fail (.rule ("log_level must be one of " ++ ", ".intercalate (Level.all.map Level.name)))

/-- The names of fields that are no settings, in ascending order. -/
def unknownNames (fields : List (String × Plain)) : List String :=
  ((fields.map Prod.fst).filter fun name => !fieldNames.contains name).mergeSort fun a b => decide (a ≤ b)

/-- No field but the settings. -/
def checkNames (fields : List (String × Plain)) : Check Unit :=
  match unknownNames fields with
  | [] => .ok ()
  | names => .error (names.map fun name => ⟨[.name name], .unknownField⟩)

/-- The settings that a plain value is. The violations of the fields come first, in the order prompt, width and level, and
then those of unknown names. -/
def ofPlain : Plain → Check Settings
  | .record fields =>
    let prompt := Check.optional Plain.asText default.prompt "prompt" fields
    let bits := Check.optional checkLiteralBits default.literalBits "int_bits" fields
    let level := Check.optional checkLevel default.level "log_level" fields
    (Check.both prompt (Check.both bits (Check.both level (checkNames fields)))).map
      fun (prompt, bits, level, _) => ⟨prompt, bits, level⟩
  | _ => Check.fail (.notRecord "LinecalcConfig")

/-- Settings as a record of plain values. -/
def toPlain (s : Settings) : Plain :=
  .record [("prompt", .text s.prompt),
    ("int_bits", match s.literalBits with | none => .null | some n => .int n),
    ("log_level", .text s.level.name)]

end Settings

end Reckoner
