/-!
# Invocations: what the arguments of the command line ask for

Switches and the line may come in any order. A long switch is spelled out after two dashes, with a value after an equals sign
or as the next argument. Short switches are letters after one dash and may be joined into a cluster; the value of a switch is
the rest of its cluster or else the next argument. Switches that are not known are taken for the line, so that a line may begin
with a dash: an unknown long switch whole, the unknown characters of a cluster joined behind one dash. After two dashes alone
no argument is a switch. Of a switch given twice the last value counts.
-/

namespace Reckoner

/-- A switch of the command line. -/
inductive Switch where
  /-- Show the tokens of the line. -/
  | tokens
  /-- Show the terms and factors of the line. -/
  | tree
  /-- Show every event. -/
  | verbose
  /-- Show the version, and nothing else. -/
  | version
  /-- Show how the program is used, and nothing else. -/
  | help
  /-- The path of the settings, which is the value of the switch. -/
  | config
  deriving DecidableEq, Repr

namespace Switch

/-- The switch with a given long name. -/
def ofName? (name : List Char) : Option Switch :=
  if name = "tokens".toList then some .tokens
  else if name = "tree".toList then some .tree
  else if name = "verbose".toList then some .verbose
  else if name = "version".toList then some .version
  else if name = "help".toList then some .help
  else if name = "config".toList then some .config
  else none

/-- The switch with a given letter. -/
def ofLetter? (c : Char) : Option Switch :=
  if c = 't' then some .tokens
  else if c = 'v' then some .verbose
  else if c = 'c' then some .config
  else none

end Switch

/-- What can be asked for in place of an evaluation. -/
inductive Notice where
  | version | help
  deriving DecidableEq, Repr

/-- What arguments say: the switches, and all that is no switch. Of the notices asked for the first counts. -/
structure Arguments where
  lines : List String
  tokens : Bool
  tree : Bool
  verbose : Bool
  notice : Option Notice
  config : Option String
  deriving DecidableEq, Repr

namespace Arguments

/-- What no arguments say. -/
def none : Arguments := ⟨[], false, false, false, .none, .none⟩

/-- Adds an argument that is no switch. -/
def addLine (a : Arguments) (line : String) : Arguments := { a with lines := a.lines ++ [line] }

/-- Turns a switch on; a value counts only for the switch that has one. -/
def turnOn (a : Arguments) (value : String) : Switch → Arguments
  | .tokens => { a with tokens := true }
  | .tree => { a with tree := true }
  | .verbose => { a with verbose := true }
  | .version => { a with notice := a.notice <|> some .version }
  | .help => { a with notice := a.notice <|> some .help }
  | .config => { a with config := some value }

/-- Turns on the switches of a cluster. Gives as well the characters that are no switch, and whether a switch at the end of
the cluster wants the next argument as its value. -/
def readCluster (a : Arguments) : List Char → Arguments × List Char × Bool
  | [] => (a, [], false)
  | c :: cs =>
    match Switch.ofLetter? c with
    | .none =>
      let (a, unknown, wantsNext) := a.readCluster cs
      (a, c :: unknown, wantsNext)
    | some .config => if cs = [] then (a, [], true) else (a.turnOn (String.ofList cs) .config, [], false)
    | some s => (a.turnOn "" s).readCluster cs

/-- Reads arguments one after another. Nothing comes of a switch whose value is missing, nor of a value for a switch that
has none. -/
def read (a : Arguments) : List String → Option Arguments
  | [] => some a
  | arg :: rest =>
    match arg.toList with
    | ['-', '-'] => some { a with lines := a.lines ++ rest }
    | '-' :: '-' :: body =>
      match Switch.ofName? (body.takeWhile (· ≠ '=')), body.dropWhile (· ≠ '=') with
      | .none, _ => (a.addLine arg).read rest
      | some .config, _ :: value => (a.turnOn (String.ofList value) .config).read rest
      | some .config, [] =>
        match rest with
        | [] => .none
        | value :: rest => (a.turnOn value .config).read rest
      | some s, [] => (a.turnOn "" s).read rest
      | some _, _ :: _ => .none
    | '-' :: c :: cs =>
      let (a, unknown, wantsNext) := a.readCluster (c :: cs)
      let a := if unknown = [] then a else a.addLine (String.ofList ('-' :: unknown))
      if wantsNext then
        match rest with
        | [] => .none
        | value :: rest => (a.turnOn value .config).read rest
      else a.read rest
    | _ => (a.addLine arg).read rest

end Arguments

/-- What an evaluation shows besides the value, and where its settings are. -/
structure Switches where
  tokens : Bool
  tree : Bool
  verbose : Bool
  config : Option String
  deriving DecidableEq, Repr

/-- What an invocation asks for. -/
inductive Invocation where
  | notice (notice : Notice)
  /-- Nothing that could be done: the path of the settings holds a null character. -/
  | impossible
  /-- The evaluation of a line: the one given, or else the first of the standard input. -/
  | evaluate (line : Option String) (switches : Switches)
  deriving DecidableEq, Repr

/-- The switches of an evaluation. -/
def Arguments.switches (a : Arguments) : Switches := ⟨a.tokens, a.tree, a.verbose, a.config⟩

/-- What arguments ask for. Nothing comes of more than one line, unless only a notice is asked for or the path of the settings
has been found impossible before. -/
def Invocation.ofArguments? (args : List String) : Option Invocation :=
  match Arguments.none.read args with
  | none => none
  | some a =>
    match a.notice with
    | some n => some (.notice n)
    | none =>
      if a.config.any (·.contains '\x00') then some .impossible
      else
        match a.lines with
        | [] => some (.evaluate none a.switches)
        | [line] => some (.evaluate (some line) a.switches)
        | _ => none

end Reckoner
