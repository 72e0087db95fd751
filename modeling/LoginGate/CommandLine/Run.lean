import LoginGate.CommandLine.Arguments
import LoginGate.CommandLine.Surroundings
import LoginGate.Compilation
import LoginGate.Policy.Yaml
import LoginGate.Settings.Document
import LoginGate.Settings.Load

/-!
# Carrying out a command

`run` reads the command line, loads the settings and carries out the command.  A command that fails
says why on the error stream and prints nothing else.  A document is complete before anything is
written.
-/

namespace LoginGate.CommandLine

open LoginGate.Identity LoginGate.Text

/-! ## What a run gives -/

/-- What a run leaves behind besides files. -/
structure Report where
  status : Nat := 0
  output : String := ""
  errors : String := ""
  deriving DecidableEq, Repr

inductive Failure where
  | settings (fault : SettingsFault)
  | reading (path : String) (fault : FileFault)
  | readingInput (fault : FileFault)
  | policy (error : CompileError)
  | compilation (name : String) (error : CompileError)
  | provider (error : CompileError)
  | writing (path : String) (fault : FileFault)

def Failure.message : Failure → String
  | .settings fault => "Failed to load settings: " ++ fault.message
  | .reading path fault => "Failed to read " ++ path ++ ": " ++ fault.message
  | .readingInput fault => "Failed to read policy from stdin: " ++ fault.message
  | .policy error => "Failed to parse AuthPolicy: " ++ error.message
  | .compilation name error =>
    "Failed to compile AuthPolicy '" ++ name ++ "': " ++ error.message
  | .provider error => error.message
  | .writing path fault => "Failed to write " ++ path ++ ": " ++ fault.message

def usage : String :=
  "Usage: authgen [-c FILE] [--log-level LEVEL] COMMAND\n\n" ++
  "  compile [-f FILE] [--format FORMAT] [-o FILE]  Compile an AuthPolicy into an EnvoyFilter\n" ++
  "  resolve URI                                    Show the endpoints of an identity provider\n" ++
  "  config show                                    Show the settings in effect\n"

namespace Report

def ofStop : Stop → Report
  | .version => { output := "authgen 0.0.1\n" }
  | .help => { output := usage }
  | .misuse => { status := 2, errors := usage }

def ofFailure (failure : Failure) : Report :=
  { status := 1, errors := "✗ " ++ failure.message ++ "\n" }

def ofText (text : String) : Report := { output := text }

/-- The report of a command that writes a document to a file. -/
def ofWritten (format : OutputFormat) (path : String) : Report :=
  { errors := "✓ Wrote " ++ format.name ++ " to " ++ path ++ "\n" }

end Report

/-! ## Texts that commands print -/

/-- The client and the compiler that the settings describe. -/
def connect (settings : Settings) : Except CompileError (Client × Compiler) := do
  let client ← Client.make settings.discovery.maxResponseSize settings.discovery.userAgent
  return (client, ← Compiler.ofSettings settings)

/-- The text of the document that a policy's text is compiled to. -/
def compiledText (settings : Settings) (respond : String → Response) (format : OutputFormat)
    (source : String) : Except Failure String := do
  let (client, compiler) ← (connect settings).mapError .provider
  let policy ← (Policy.ofYamlText source).mapError .policy
  let fetch := fun uri => client.fetch uri (respond uri)
  let filter ← ((compiler.compileFilter policy).run fetch).result.mapError
    (.compilation policy.name)
  return filter.write format

def labelled (label text : String) : String := label ++ ": " ++ text ++ "\n"

/-- The lines about the endpoints of a provider and the target that goes with them. -/
def locatedText (endpoints : Endpoints) (target : NetworkTarget) : String :=
  labelled "Authorize" endpoints.authorize ++ labelled "Token" endpoints.token ++
    labelled "End session" (endpoints.endSession.getD "(none)") ++
    labelled "Target" (target.text ++ (if target.tls then " (tls)" else " (plaintext)"))

/-- What is looked up about the provider at a URI: its endpoints, and the network target that goes
with them. -/
def lookUp (compiler : Compiler) (uri : String) : Pass (Endpoints × NetworkTarget) := do
  let endpoints ← resolve compiler.providers uri
  let target ← Pass.ofExcept (NetworkTarget.derive endpoints.token (trim uri))
  return (endpoints, target)

def resolvedText (settings : Settings) (respond : String → Response) (uri : String) :
    Except Failure String := do
  let (client, compiler) ← (connect settings).mapError .provider
  let fetch := fun uri => client.fetch uri (respond uri)
  let (endpoints, target) ← ((lookUp compiler uri).run fetch).result.mapError .provider
  return locatedText endpoints target

/-! ## Settings files -/

/-- The settings file that is taken if it is there and no other is named. -/
def defaultSettingsFile : String := "authgen.toml"

/-- A path without the slashes and single dots that end it. -/
def withoutEndDots (components : List (List Char)) : List (List Char) :=
  (components.reverse.dropWhile fun c => c == [] || c == ['.']).reverse

/-- The path of a settings file that is named without its ending. -/
def withEnding? (path : String) : Option String :=
  match withoutEndDots (pieces '/' path.toList) with
  | [] => none
  | components =>
    if components.getLast? = some ['.', '.'] then none
    else some (String.ofList (join ['/'] components) ++ ".toml")

namespace Surroundings

variable {m : Type → Type} [Monad m] (s : Surroundings m)

/-- The first of the paths that is a file. -/
def firstFile? : List String → m (Option String)
  | [] => return none
  | path :: paths => do if ← s.isFile path then return some path else firstFile? paths

/-- The text of a settings file that has to be there, under its name or with the usual ending. -/
def settingsText (path : String) : m (Except SettingsFault String) := do
  match ← s.firstFile? (path :: (withEnding? path).toList) with
  | none => return .error .unreadable
  | some path => return (← s.read path).mapError fun _ => .unreadable

def settingsText? : Option String → m (Except SettingsFault (Option String))
  | some path => return (← s.settingsText path).map some
  | none => do
    if ← s.isPresent defaultSettingsFile then
      return (← s.settingsText defaultSettingsFile).map some
    else return .ok none

def loadSettings (file : Option String) : m (Except SettingsFault Settings) := do
  return (← s.settingsText? file).bind fun text => Settings.load text s.environment

/-! ## Commands -/

def policyText : Option String → m (Except Failure String)
  | some path => return (← s.read path).mapError (.reading path)
  | none => return (← s.input).mapError .readingInput

/-- Prints a document, or writes it to a file. -/
def deliver (format : OutputFormat) (text : String) : Option String → m Report
  | none => return .ofText text
  | some path => do
    match ← s.write path text with
    | .ok () => return .ofWritten format path
    | .error fault => return .ofFailure (.writing path fault)

def compile (settings : Settings) (file : Option String) (format : OutputFormat)
    (output : Option String) : m Report := do
  match (← s.policyText file).bind (compiledText settings s.respond format) with
  | .ok text => s.deliver format text output
  | .error failure => return .ofFailure failure

def perform (settings : Settings) : Command → m Report
  | .compile file format output => s.compile settings file (format.getD settings.format) output
  | .resolve uri => match resolvedText settings s.respond uri with
    | .ok text => return .ofText text
    | .error failure => return .ofFailure failure
  | .showSettings => return .ofText settings.document

def answer (request : Request) : m Report := do
  match ← s.loadSettings request.settingsFile with
  | .ok settings => s.perform settings request.command
  | .error fault => return .ofFailure (.settings fault)

def run (arguments : List String) : m Report :=
  match Request.ofArguments arguments s.environment with
  | .ok request => s.answer request
  | .error stop => return .ofStop stop

end Surroundings

end LoginGate.CommandLine
