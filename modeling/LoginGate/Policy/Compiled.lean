import LoginGate.FormEncoding
import LoginGate.Identity.Endpoints
import LoginGate.Policy.Login
import LoginGate.CompileError

/-!
# Compiled policies

`compiled` joins a policy with the endpoints and the network target of its identity provider.  It
fails exactly when `check` does, with the same error.
-/

namespace LoginGate

/-- All that the generated filter holds. -/
structure CompiledPolicy where
  name : String
  namespaceName : Option String
  /-- Requests that pass without a login. -/
  ignore : List Access.Rule
  /-- Requests that need a login, those to the filter's own paths among them. -/
  require : List Access.Rule
  /-- Requests that are refused instead of sent to a login. -/
  deny : List Access.Rule
  endpoints : Endpoints
  target : NetworkTarget
  /-- Encoded for a query string. -/
  loginParams : KeyMap String
  /-- Encoded for a query string; empty if there is none. -/
  postLogoutRedirectURI : String
  scopes : List String
  redirectPath : String
  logoutPath : String
  loginPath : Option String
  workloadLabels : KeyMap String
  acceptedResources : Option (List String)
  deriving DecidableEq, Repr, Inhabited

def CompiledPolicy.filterName (c : CompiledPolicy) : String := c.name ++ "-login"

namespace Policy

def authMatchers (p : Policy) : List Access.Matcher := p.spec.authRules.map AuthRule.matcher

/-- The first path of a rule that is not accepted is a fault; the requests that pass without a login
come first. -/
def checkRulePaths (p : Policy) : Except CompileError Unit :=
  (Access.checkMatchers (p.spec.ignoreRules ++ p.authMatchers)).mapError fun fault =>
    .configuration (.rulePath fault.1 fault.2)

/-- The accepted resources: a list of texts; no value and no items both mean none. -/
def resourceTexts (value : Option Json) : Except CompileError (Option (List String)) :=
  match value with
  | none => .ok none
  | some .null => .ok none
  | some (.list items) => do
    let texts ← items.mapM fun item => match item with
      | .text s => .ok s
      | other => .error (CompileError.configuration (.resourceNotAText other))
    return if texts.isEmpty then none else some texts
  | some other => .error (.configuration (.resourcesNotAList other))

/-- What can be found wrong with a policy by itself. -/
def check (p : Policy) : Except CompileError Unit := do
  p.checkRulePaths
  let _ ← resourceTexts p.spec.acceptedResources

/-- The policy with its provider. -/
def compiled (p : Policy) (endpoints : Endpoints) (target : NetworkTarget) :
    Except CompileError CompiledPolicy := do
  p.checkRulePaths
  let acceptedResources ← resourceTexts p.spec.acceptedResources
  let login := Login.ofSection p.spec.autoLogin
  return {
    name := p.name
    namespaceName := nonEmpty p.metadata.namespaceName
    ignore := Access.ruleTable p.spec.ignoreRules
    require := Access.ruleTable (p.authMatchers ++ [.anyMethod login.ownPaths])
    deny := []
    endpoints := endpoints
    target := target
    loginParams := FormEncoding.encodeParameters login.loginParams
    postLogoutRedirectURI := FormEncoding.encodeOptional login.postLogoutRedirectURI
    scopes := login.scopes
    redirectPath := login.redirectPath
    logoutPath := login.logoutPath
    loginPath := login.loginPath
    workloadLabels := p.spec.matchLabels
    acceptedResources := acceptedResources }

end Policy

end LoginGate
