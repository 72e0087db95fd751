import LoginGate.CommandLine.Run

/-!
# The program

The surroundings of the program are the files, the input and the environment of its process.  No
identity provider is asked: a URI that no known provider recognises does not answer.
-/

namespace LoginGate.CommandLine

/-- The fault with a number of the system; some calls give the number below zero. -/
def FileFault.ofCode (code : UInt32) (reason : String) : FileFault :=
  .ofNumber (if code < 0x80000000 then code else 0 - code).toNat reason

def FileFault.ofError : IO.Error → FileFault
  | .noFileOrDirectory _ code reason => .ofCode code reason
  | .permissionDenied _ code reason => .ofCode code reason
  | .inappropriateType _ code reason => .ofCode code reason
  | .invalidArgument _ code reason => .ofCode code reason
  | .resourceExhausted _ code reason => .ofCode code reason
  | .noSuchThing _ code reason => .ofCode code reason
  | .alreadyExists _ code reason => .ofCode code reason
  | .otherError code reason => .ofCode code reason
  | error => .other 5 (toString error)

def textOfBytes (bytes : ByteArray) : Except FileFault String :=
  match String.fromUTF8? bytes with
  | some text => .ok text
  | none => .error .notText

def bytesOfFile (path : String) : IO (Except FileFault ByteArray) := do
  match ← (IO.FS.readBinFile path).toBaseIO with
  | .ok bytes => return .ok bytes
  | .error error => return .error (.ofError error)

partial def bytesOfStream (stream : IO.FS.Stream) (bytes : ByteArray) : IO ByteArray := do
  let more ← stream.read 65536
  if more.isEmpty then return bytes else bytesOfStream stream (bytes ++ more)

/-- The file in which the system shows the environment, a zero after each variable. -/
def environmentFile : String := "/proc/self/environ"

/-- The variables in the text of the environment. -/
def environmentOfText (text : String) : Settings.Environment :=
  (Text.pieces '\x00' text.toList).filterMap fun entry =>
    match entry.dropWhile (· != '=') with
    | '=' :: value =>
      some (String.ofList (entry.takeWhile (· != '=')), String.ofList value)
    | _ => none

def processEnvironment : IO Settings.Environment := do
  match (← bytesOfFile environmentFile).bind textOfBytes with
  | .ok text => return environmentOfText text
  | .error _ => return []

def processSurroundings (environment : Settings.Environment) : Surroundings IO where
  isPresent path := do
    match ← bytesOfFile path with
    | .error .notFound => return false
    | _ => return true
  isFile path := return (← bytesOfFile path).isOk
  read path := return (← bytesOfFile path).bind textOfBytes
  write path text := do
    match ← (IO.FS.writeFile path text).toBaseIO with
    | .ok () => return .ok ()
    | .error error => return .error (.ofError error)
  input := return textOfBytes (← bytesOfStream (← IO.getStdin) .empty)
  environment
  respond _ := .dropped

end LoginGate.CommandLine

def main (arguments : List String) : IO UInt32 := do
  let environment ← LoginGate.CommandLine.processEnvironment
  let report ← (LoginGate.CommandLine.processSurroundings environment).run arguments
  IO.print report.output
  IO.eprint report.errors
  return report.status.toUInt32
