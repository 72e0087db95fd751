import LoginGate.Filter.ScriptTemplate
import LoginGate.Lua.Literal
import LoginGate.Policy.Compiled
import LoginGate.Text.Template

/-!
# The script of a policy

Each open value of the script is a Lua expression made of one part of a policy.
-/

namespace LoginGate.Filter

open LoginGate.Text

/-- The header that marks requests which may pass without a login. -/
def bypassHeader : String := "x-bypass-login"

/-- The header that marks requests which are refused instead of sent to a login. -/
def denyRedirectHeader : String := "x-deny-redirect"

/-- The Lua expressions for the open values, in the order of the script. -/
structure ScriptValues where
  ignoreRules : String
  requireRules : String
  denyRedirectRules : String
  authorizeEndpoint : String
  loginParams : String
  endSessionEndpoint : String
  postLogoutRedirectURI : String
  bypassHeader : String
  denyRedirectHeader : String
  deriving DecidableEq, Repr, Inhabited

namespace ScriptValues

def ofPolicy (c : CompiledPolicy) : ScriptValues where
  ignoreRules := Access.ruleTableText c.ignore
  requireRules := Access.ruleTableText c.require
  denyRedirectRules := Access.ruleTableText c.deny
  authorizeEndpoint := Lua.quote c.endpoints.authorize
  loginParams := Lua.stringTable c.loginParams
  endSessionEndpoint := Lua.quote c.endpoints.endSessionOrEmpty
  postLogoutRedirectURI := Lua.quote c.postLogoutRedirectURI
  bypassHeader := Lua.quote Filter.bypassHeader
  denyRedirectHeader := Lua.quote Filter.denyRedirectHeader

/-- The names of the open values, in the order of the script. -/
def names : List String :=
  ["ignore_rules", "require_rules", "deny_redirect_rules", "authorize_endpoint", "login_params",
    "end_session_endpoint", "post_logout_redirect_uri", "bypass_header", "deny_redirect_header"]

/-- The values, in the order of the script. -/
def toList (v : ScriptValues) : List String :=
  [v.ignoreRules, v.requireRules, v.denyRedirectRules, v.authorizeEndpoint, v.loginParams,
    v.endSessionEndpoint, v.postLogoutRedirectURI, v.bypassHeader, v.denyRedirectHeader]

/-- Each value under its name. -/
def entries (v : ScriptValues) : List (String × String) := names.zip v.toList

def find? (v : ScriptValues) (name : String) : Option String := v.entries.lookup name

end ScriptValues

def fillWith (v : ScriptValues) (template : String) : Except CompileError String :=
  (fill v.find? template).mapError fun fault => .serialization fault.message

/-- The script with the values put in. -/
def script (v : ScriptValues) : Except CompileError String := fillWith v scriptTemplate

end LoginGate.Filter
