import LoginGate.OutputFormat
import LoginGate.Settings.Environment

/-!
# Arguments of the command line

A command line names a path in a tree of commands, with options at every level of the path.  The
arguments are read from left to right: `Reading.step` takes one of them, and `Reading.finish` makes
the request of what was read.  An option may stand once at each level; the settings file of the
innermost level counts, and that of the environment only if there is none on the command line.
-/

namespace LoginGate.CommandLine

open LoginGate.Settings

/-! ## The tree of commands -/

/-- An option that takes a value. -/
inductive Parameter where
  | settingsFile
  | logLevel
  | policyFile
  | format
  | outputFile
  deriving DecidableEq, Repr

/-- A place in the tree of commands. -/
inductive Level where
  | top
  | compile
  | resolve
  | settings
  | settingsShown
  | help
  deriving DecidableEq, Repr

namespace Parameter

/-- The name that follows two hyphens. -/
def name : Parameter → String
  | settingsFile => "config"
  | logLevel => "log-level"
  | policyFile => "file"
  | format => "format"
  | outputFile => "output"

/-- The letter that follows one hyphen. -/
def letter? : Parameter → Option Char
  | settingsFile => some 'c'
  | policyFile => some 'f'
  | outputFile => some 'o'
  | _ => none

/-- Is this a value of the option?  Paths are not empty, and a format has to be known. -/
def admits (p : Parameter) (value : String) : Bool :=
  match p with
  | logLevel => true
  | format => (OutputFormat.ofWord? value).isSome
  | _ => !value.isEmpty

end Parameter

namespace Level

def commands : Level → List (String × Level)
  | top => [("compile", compile), ("resolve", resolve), ("config", settings), ("help", help)]
  | settings => [("show", settingsShown), ("help", help)]
  | _ => []

def parameters : Level → List Parameter
  | compile => [.policyFile, .format, .outputFile, .settingsFile, .logLevel]
  | _ => [.settingsFile, .logLevel]

/-- How many arguments a level takes besides its options. -/
def operandCount : Level → Nat
  | resolve => 1
  | _ => 0

end Level

/-! ## Requests -/

inductive Command where
  /-- A policy, of a file or else of the input, is compiled to a file or else to the output. -/
  | compile (file : Option String) (format : Option OutputFormat) (output : Option String)
  /-- The endpoints of a provider are shown. -/
  | resolve (uri : String)
  /-- The settings in effect are shown. -/
  | showSettings
  deriving DecidableEq, Repr

/-- A command and the settings file that it is carried out under. -/
structure Request where
  settingsFile : Option String
  command : Command
  deriving DecidableEq, Repr

/-- Why a command line makes no request. -/
inductive Stop where
  /-- The version is asked for. -/
  | version
  /-- An explanation is asked for. -/
  | help
  /-- The command line is not understood. -/
  | misuse
  deriving DecidableEq, Repr

/-! ## Reading -/

/-- How the next argument is taken. -/
inductive Expecting where
  | anything
  | value (p : Parameter)
  | operands
  /-- A command that is to be explained. -/
  | subject
  deriving DecidableEq, Repr

abbrev Values := List (Parameter × String)

/-- What was read of a command line. -/
structure Reading where
  level : Level := .top
  /-- The options of the level. -/
  values : Values := []
  /-- The options of the levels above, from the inside out. -/
  outer : List Values := []
  operands : List String := []
  expecting : Expecting := .anything

namespace Reading

/-- The value of an option of the level; it may be given once. -/
def give (r : Reading) (p : Parameter) (value : String) : Except Stop Reading :=
  if p ∈ r.values.map Prod.fst ∨ p.admits value = false then .error .misuse
  else .ok { r with values := (p, value) :: r.values, expecting := .anything }

def operand (r : Reading) (argument : String) : Except Stop Reading :=
  if r.operands.length < r.level.operandCount then
    .ok { r with operands := r.operands ++ [argument] }
  else .error .misuse

def command (r : Reading) (name : String) : Except Stop Reading :=
  match r.level.commands.lookup name with
  | none => .error .misuse
  | some .help => .ok { r with expecting := .subject }
  | some level => .ok { level, outer := r.values :: r.outer }

/-- What two hyphens and a name are, with what follows an equals sign. -/
def long (r : Reading) (name : String) (value : Option String) : Except Stop Reading :=
  match r.level.parameters.find? (·.name == name), value with
  | some p, some value => r.give p value
  | some p, none => .ok { r with expecting := .value p }
  | none, some _ => .error .misuse
  | none, none =>
    if name = "help" then .error .help
    else if name = "version" ∧ r.level = .top then .error .version
    else .error .misuse

/-- What one hyphen and a letter are, with what follows at once. -/
def short (r : Reading) (letter : Char) (rest : List Char) : Except Stop Reading :=
  match r.level.parameters.find? (·.letter? == some letter), rest with
  | some p, [] => .ok { r with expecting := .value p }
  | some p, '=' :: value => r.give p (String.ofList value)
  | some p, value => r.give p (String.ofList value)
  | none, _ =>
    if letter = 'h' then .error .help
    else if letter = 'V' ∧ r.level = .top then .error .version
    else .error .misuse

def step (r : Reading) (argument : String) : Except Stop Reading :=
  match r.expecting, argument.toList with
  | .operands, _ => r.operand argument
  | .subject, _ => match r.level.commands.lookup argument with
    | some level => .ok { r with level }
    | none => .error .misuse
  | .value _, '-' :: _ :: _ => .error .misuse
  | .value p, _ => r.give p argument
  | .anything, ['-', '-'] => .ok { r with expecting := .operands }
  | .anything, '-' :: '-' :: rest =>
    let name := rest.takeWhile (· != '=')
    r.long (String.ofList name) ((rest.drop name.length).tail?.map String.ofList)
  | .anything, '-' :: letter :: rest => r.short letter rest
  | .anything, _ => if r.level.commands.isEmpty then r.operand argument else r.command argument

/-- The options of all levels, from the inside out. -/
def levels (r : Reading) : List Values := r.values :: r.outer

/-- The variable that names the settings file. -/
def settingsVariable : String := "AUTHGEN_CONFIG"

/-- The settings file.  The variable stands in at every level without the option, where an empty
path is as wrong as on the command line. -/
def settingsFile (r : Reading) (environment : Environment) : Except Stop (Option String) :=
  let given := r.levels.map fun values => values.lookup Parameter.settingsFile
  let variable_ := environment.lookup settingsVariable
  if none ∈ given ∧ variable_ = some "" then .error .misuse
  else .ok ((given.findSome? id).or variable_)

/-- The command that the level and its arguments make. -/
def command? (r : Reading) : Option Command :=
  match r.level, r.operands with
  | .compile, _ => some (.compile (r.values.lookup .policyFile)
      ((r.values.lookup .format).bind OutputFormat.ofWord?) (r.values.lookup .outputFile))
  | .resolve, [uri] => some (.resolve uri)
  | .settingsShown, _ => some .showSettings
  | _, _ => none

/-- The request, once all arguments are read. -/
def finish (r : Reading) (environment : Environment) : Except Stop Request :=
  match r.expecting, r.command? with
  | .subject, _ => .error .help
  | .value _, _ => .error .misuse
  | _, none => .error .misuse
  | _, some command => do
    return { settingsFile := ← r.settingsFile environment, command }

end Reading

def Request.ofArguments (arguments : List String) (environment : Environment) :
    Except Stop Request := do
  (← arguments.foldlM Reading.step {}).finish environment

end LoginGate.CommandLine
