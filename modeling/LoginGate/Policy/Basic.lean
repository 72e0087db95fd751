import LoginGate.Access.Rule
import LoginGate.Json.Basic

/-!
# Login policies

A policy names the requests that pass without a login, the requests that need one, and how a browser
logs in.  The types here hold a policy as it is written; `Policy.Login` holds what it means once the
defaults are filled in.
-/

namespace LoginGate

/-- An entry of the requests that need a login: a matcher and the claims it asks for. -/
structure Policy.AuthRule where
  matcher : Access.Matcher
  condition : Option Json
  deriving Repr, Inhabited

/-- The browser login as it is written. -/
structure Policy.AutoLogin where
  loginPath : Option String := none
  redirectPath : Option String := none
  logoutPath : Option String := none
  loginParams : KeyMap String := []
  postLogoutRedirectURI : Option String := none
  scopes : Option (List String) := none
  deriving DecidableEq, Repr, Inhabited

structure Policy.Metadata where
  name : Option String := none
  namespaceName : Option String := none
  deriving DecidableEq, Repr, Inhabited

/-- What a policy asks for. -/
structure Policy.Spec where
  /-- Where the discovery document is published. -/
  wellKnownURI : String := ""
  /-- Requests that pass without a login. -/
  ignoreRules : List Access.Matcher := []
  /-- Requests that need a login. -/
  authRules : List Policy.AuthRule := []
  autoLogin : Option Policy.AutoLogin := none
  /-- The labels of the workloads that the policy applies to. -/
  matchLabels : KeyMap String := []
  acceptedResources : Option Json := none
  deriving Repr, Inhabited

structure Policy where
  apiVersion : Option String := none
  kind : Option String := none
  metadata : Policy.Metadata := {}
  spec : Policy.Spec := {}
  deriving Repr, Inhabited

namespace Policy

def nonEmpty (s : Option String) : Option String := s.filter fun s => s ≠ ""

/-- The name of a policy that gives none. -/
def defaultName : String := "auth-policy"

def name (p : Policy) : String := (nonEmpty p.metadata.name).getD defaultName

end Policy

end LoginGate
