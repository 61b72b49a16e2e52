import Reckoner.Binary64
import Reckoner.Numeral.Lenient

/-!
# Plain values: data without a schema, and the violations met when it is read under one

Settings and expression trees may come as plain values: nothing, truth values, integers, floating-point numbers, texts, dates
and times, lists, and records with named fields. A value is checked against what is wanted of it; each fault is reported with
its place, the path of names and indices that leads to it. A check of several parts reports the faults of all of them, in the
order of the parts.
-/

namespace Reckoner

/-- A value without a schema. -/
inductive Plain where
  | null
  | bool (value : Bool)
  | int (value : Int)
  | float (value : Binary64)
  | text (value : String)
  /-- A date, a time, or both. What it says does not matter here. -/
  | moment
  | list (items : List Plain)
  | record (fields : List (String × Plain))

instance : Inhabited Plain := ⟨.null⟩

/-- The value of a field; of fields with one name, the first. -/
def Plain.field? (name : String) (fields : List (String × Plain)) : Option Plain :=
  (fields.find? fun f => f.1 == name).map Prod.snd

/-! ## Violations -/

/-- A step on the way to a part of a value. -/
inductive Violation.Place where
  | name (name : String)
  | index (index : Nat)
  deriving DecidableEq, Repr

/-- What is wrong with a part of a value. -/
inductive Violation.Fault where
  | notInteger
  | unreadableInteger
  | oversizedInteger
  | fractional
  | notFinite
  | notText
  | missing
  | notRecord (schema : String)
  | notList
  | tooLong (limit length : Nat)
  | notSign
  | unknownField
  /-- A rule of the schema is broken. -/
  | rule (text : String)
  deriving DecidableEq, Repr

/-- A fault and its place. -/
structure Violation where
  path : List Violation.Place
  fault : Violation.Fault
  deriving DecidableEq, Repr

/-- The name a fault is filed under. -/
def Violation.Fault.category : Violation.Fault → String
  | .notInteger => "int_type"
  | .unreadableInteger => "int_parsing"
  | .oversizedInteger => "int_parsing_size"
  | .fractional => "int_from_float"
  | .notFinite => "finite_number"
  | .notText => "string_type"
  | .missing => "missing"
  | .notRecord _ => "model_type"
  | .notList => "tuple_type"
  | .tooLong _ _ => "too_long"
  | .notSign => "enum"
  | .unknownField => "extra_forbidden"
  | .rule _ => "value_error"

/-- What is said of a fault. -/
def Violation.Fault.message : Violation.Fault → String
  | .notInteger => "Input should be a valid integer"
  | .unreadableInteger => "Input should be a valid integer, unable to parse string as an integer"
  | .oversizedInteger => "Unable to parse input string as an integer, exceeded maximum size"
  | .fractional => "Input should be a valid integer, got a number with a fractional part"
  | .notFinite => "Input should be a finite number"
  | .notText => "Input should be a valid string"
  | .missing => "Field required"
  | .notRecord schema => "Input should be a valid dictionary or instance of " ++ schema
  | .notList => "Input should be a valid tuple"
  | .tooLong limit length =>
    "Tuple should have at most " ++ limit.repr ++ " items after validation, not " ++ length.repr
  | .notSign => "Input should be '+' or '-'"
  | .unknownField => "Extra inputs are not permitted"
  | .rule text => "Value error, " ++ text

/-! ## Checks -/

/-- The result of a check: what was wanted, or all that is wrong. -/
abbrev Check (α : Type) := Except (List Violation) α

namespace Check

/-- A check that fails for one reason, at the place it is made. -/
def fail {α : Type} (f : Violation.Fault) : Check α := .error [⟨[], f⟩]

/-- The check of a part: its violations lie below the part. -/
def under {α : Type} (p : Violation.Place) (c : Check α) : Check α :=
  c.mapError (List.map fun v => { v with path := p :: v.path })

/-- Two checks, both made. -/
def both {α β : Type} : Check α → Check β → Check (α × β)
  | .ok a, .ok b => .ok (a, b)
  | .ok _, .error ws => .error ws
  | .error vs, .ok _ => .error vs
  | .error vs, .error ws => .error (vs ++ ws)

/-- The check of every item of a list from index `i` on. -/
def items {α : Type} (check : Plain → Check α) (i : Nat) : List Plain → Check (List α)
  | [] => .ok []
  | p :: ps => (both ((check p).under (.index i)) (items check (i + 1) ps)).map fun (a, as) => a :: as

/-- The check of a field that has to be there. -/
def required {α : Type} (check : Plain → Check α) (name : String) (fields : List (String × Plain)) : Check α :=
  Check.under (.name name) <|
    match Plain.field? name fields with
    | some p => check p
    | none => fail .missing

/-- The check of a field that may be absent and then has a given value. -/
def optional {α : Type} (check : Plain → Check α) (absent : α) (name : String) (fields : List (String × Plain)) :
    Check α :=
  match Plain.field? name fields with
  | some p => (check p).under (.name name)
  | none => .ok absent

end Check

/-! ## Integers and texts -/

/-- The magnitude from which on floating-point numbers are not taken for integers. -/
def Plain.floatLimit : Nat := 1 <<< 63

/-- An integer. A truth value counts as one or zero, a floating-point number without a fraction as the integer it is if that
is below the limit, and a text as the integer it denotes leniently. -/
def Plain.integer : Plain → Check Int
  | .int n => .ok n
  | .bool b => .ok (if b then 1 else 0)
  | .float x =>
    match x with
    | .finite _ _ =>
      match x.integer? with
      | some n => if n.natAbs < floatLimit then .ok n else Check.fail .oversizedInteger
      | none => Check.fail .fractional
    | _ => Check.fail .notFinite
  | .text s =>
    match Numeral.Lenient.integer s.toList with
    | .ok n => .ok n
    | .error .malformed => Check.fail .unreadableInteger
    | .error .oversized => Check.fail .oversizedInteger
  | _ => Check.fail .notInteger

/-- A text, and nothing that might be taken for one. -/
def Plain.asText : Plain → Check String
  | .text s => .ok s
  | _ => Check.fail .notText

/-- A list. -/
def Plain.asList : Plain → Check (List Plain)
  | .list ps => .ok ps
  | _ => Check.fail .notList

end Reckoner
