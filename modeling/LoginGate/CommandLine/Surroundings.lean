import LoginGate.Identity.Response
import LoginGate.Settings.Environment

/-!
# What a command works on

`Surroundings m` are the files, the input, the environment and the identity providers that a command
meets, in a monad `m`: the world itself, or a directory that is a value.
-/

namespace LoginGate.CommandLine

/-- Why a file is not read or written. -/
inductive FileFault where
  | notFound
  | permissionDenied
  | notADirectory
  | isADirectory
  | nameTooLong
  /-- The file does not hold a text. -/
  | notText
  | other (code : Nat) (reason : String)
  deriving DecidableEq, Repr

namespace FileFault

/-- A reason with the number that the system gives it. -/
def numbered (reason : String) (code : Nat) : String :=
  reason ++ " (os error " ++ code.repr ++ ")"

def message : FileFault → String
  | notFound => numbered "No such file or directory" 2
  | permissionDenied => numbered "Permission denied" 13
  | notADirectory => numbered "Not a directory" 20
  | isADirectory => numbered "Is a directory" 21
  | nameTooLong => numbered "File name too long" 36
  | notText => "stream did not contain valid UTF-8"
  | other code reason => numbered reason code

/-- The fault that the system gives a number. -/
def ofNumber (code : Nat) (reason : String) : FileFault :=
  match code with
  | 2 => notFound
  | 13 => permissionDenied
  | 20 => notADirectory
  | 21 => isADirectory
  | 36 => nameTooLong
  | _ => other code reason

end FileFault

/-- What a command meets. -/
structure Surroundings (m : Type → Type) where
  /-- Is there anything at a path? -/
  isPresent : String → m Bool
  /-- Is there a file at a path? -/
  isFile : String → m Bool
  /-- The text of a file. -/
  read : String → m (Except FileFault String)
  /-- Puts a text in place of what a file holds. -/
  write : String → String → m (Except FileFault Unit)
  /-- The text of the input. -/
  input : m (Except FileFault String)
  /-- The environment. -/
  environment : Settings.Environment
  /-- What a URI answers to a request. -/
  respond : String → Identity.Response

end LoginGate.CommandLine
