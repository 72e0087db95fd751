import LoginGate.CompileError
import LoginGate.Identity.Endpoints
import LoginGate.Text.Blank
import LoginGate.Url.Basic

/-!
# The network target of a provider

The target is taken from the token endpoint, or from the URI of the discovery document if the token
endpoint has no scheme or no host.  A port that is spelled out is kept even where it is the default
one of its scheme; without one it is 443 if the connection is encrypted, and 80 if not.
-/

namespace LoginGate.NetworkTarget

open LoginGate.Text

/-- The parts before and after the first two slashes. -/
def cutAtSlashes? : List Char → Option (List Char × List Char)
  | '/' :: '/' :: rest => some ([], rest)
  | c :: rest => (cutAtSlashes? rest).map fun cut => (c :: cut.1, cut.2)
  | [] => none

/-- What is behind the last closing bracket. -/
def afterBracket (s : List Char) : List Char :=
  match cutLast? ']' s with
  | some (_, rest) => rest
  | none => s

/-- Does the text spell out a port behind its first two slashes? -/
def spellsPort (s : List Char) : Bool :=
  match cutAtSlashes? s with
  | none => false
  | some (_, rest) =>
    let authority := rest.takeWhile fun c => c ≠ '/' && c ≠ '?' && c ≠ '#'
    match cutLast? ':' (afterBracket (Url.afterCredentials authority)) with
    | some (_, port) => !port.isEmpty && port.all isDigit
    | none => false

/-- The text as a URL; one that starts with two slashes is an `https` URL. -/
def basis? (s : List Char) : Option Url :=
  match s with
  | '/' :: '/' :: _ => Url.ofChars? ("https:".toList ++ s)
  | s => Url.ofChars? s

/-- The port of a target: the one that is spelled out, or the one for its scheme. -/
def portOf (text : List Char) (u : Url) : Nat :=
  match u.unusualPort? with
  | some port => port
  | none =>
    let usual := if u.scheme = "https".toList then 443 else 80
    if spellsPort text then (u.port <|> Url.defaultPort? u.scheme).getD usual else usual

/-- The target that a text names, if it has a scheme and a host. -/
def ofText? (s : String) : Option NetworkTarget :=
  let text := trimChars s.toList
  (basis? text).map fun u =>
    ⟨String.ofList u.scheme, String.ofList u.host.text, portOf text u⟩

/-- The target of a provider. -/
def derive (tokenEndpoint wellKnownURI : String) : Except CompileError NetworkTarget :=
  match ofText? tokenEndpoint <|> ofText? wellKnownURI with
  | some target => .ok target
  | none => .error (.configuration (.hostUnknown tokenEndpoint wellKnownURI))

end LoginGate.NetworkTarget
