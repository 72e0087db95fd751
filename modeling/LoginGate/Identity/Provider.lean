import LoginGate.CompileError
import LoginGate.Identity.Endpoints
import LoginGate.Pattern.Reading
import LoginGate.Pattern.Search
import LoginGate.Settings.Basic

/-!
# Known providers

A known provider has its endpoints in its URI: what the group `base` of its pattern matched,
followed by fixed suffixes.  Of several providers that recognise a URI the first one counts.
-/

namespace LoginGate.Identity

/-- The group whose stretch the endpoints begin with. -/
def baseGroup : String := "base"

/-- A provider that is recognised by its URI. -/
structure Provider where
  name : String
  pattern : Pattern
  authorizeSuffix : String
  tokenSuffix : String
  endSessionSuffix : Option String
  deriving DecidableEq, Repr, Inhabited

/-- What keeps a text from being the pattern of a provider. -/
inductive PatternFault where
  | invalid
  | withoutBase
  deriving DecidableEq, Repr

/-- The pattern of a provider: any pattern with a group `base`. -/
def readPattern (text : String) : Except PatternFault Pattern :=
  match Pattern.ofText? text with
  | none => .error .invalid
  | some pattern =>
    if baseGroup ∈ pattern.groupNames then .ok pattern else .error .withoutBase

namespace Provider

def ofSettings (s : ProviderSettings) : Except CompileError Provider :=
  match readPattern s.pattern with
  | .error .invalid => .error (.configuration (.patternInvalid s.name))
  | .error .withoutBase => .error (.configuration (.patternWithoutBase s.name))
  | .ok pattern => .ok ⟨s.name, pattern, s.authorizeSuffix, s.tokenSuffix, s.endSessionSuffix⟩

/-- The endpoints in a URI, if the provider recognises it. -/
def endpoints? (p : Provider) (uri : String) : Option Endpoints :=
  (p.pattern.captured? baseGroup uri.toList).map fun base =>
    let base := String.ofList base
    ⟨base ++ p.authorizeSuffix, base ++ p.tokenSuffix, p.endSessionSuffix.map (base ++ ·)⟩

/-- The characters of a text, each as a pattern. -/
def spelled (s : String) : List Pattern := s.toList.map fun c => .one (.single c)

/-- `http://mock-oauth2.auth:8080/ISSUER/.well-known/openid-configuration`, for any issuer that is
not empty and holds no slash. -/
def mockPattern : Pattern :=
  let issuer := Pattern.repeated (.one (.complement (.single '/'))) 1 none true
  .sequence
    ([.look .textStart,
      .group (some baseGroup) (.sequence (spelled "http://mock-oauth2.auth:8080/" ++ [issuer]))] ++
      spelled "/.well-known/openid-configuration" ++ [.look .textEnd])

/-- The provider that tests run against. -/
def mock : Provider :=
  ⟨"mock-oauth2", mockPattern, "/authorize", "/token", some "/endsession"⟩

end Provider

def builtin : List Provider := [.mock]

/-- The first provider that recognises the URI, and the endpoints that it finds there. -/
def recognise (providers : List Provider) (uri : String) : Option (String × Endpoints) :=
  providers.findSome? fun p => (p.endpoints? uri).map fun endpoints => (p.name, endpoints)

/-- The built-in providers and those of the settings, in order. -/
def knownProviders (settings : List ProviderSettings) : Except CompileError (List Provider) := do
  return builtin ++ (← settings.mapM Provider.ofSettings)

end LoginGate.Identity
