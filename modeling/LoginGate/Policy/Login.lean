import LoginGate.Policy.Basic

/-!
# The browser login with its defaults

An absent value, an empty text and an empty list of scopes all count as unset.
-/

namespace LoginGate.Policy

/-- The browser login with every default filled in. -/
structure Login where
  loginPath : Option String
  redirectPath : String
  logoutPath : String
  loginParams : KeyMap String
  postLogoutRedirectURI : Option String
  scopes : List String
  deriving DecidableEq, Repr, Inhabited

/-- Where the identity provider sends the browser back to, by default. -/
def Login.defaultRedirectPath : String := "/oauth2/callback"

def Login.defaultLogoutPath : String := "/logout"

def Login.defaultScopes : List String := ["openid", "offline_access", "User.Read"]

/-- The login that a written section means. -/
def Login.ofSection (written : Option AutoLogin) : Login :=
  let s := written.getD {}
  { loginPath := nonEmpty s.loginPath
    redirectPath := (nonEmpty s.redirectPath).getD defaultRedirectPath
    logoutPath := (nonEmpty s.logoutPath).getD defaultLogoutPath
    loginParams := s.loginParams
    postLogoutRedirectURI := nonEmpty s.postLogoutRedirectURI
    scopes := (s.scopes.filter fun scopes => !scopes.isEmpty).getD defaultScopes }

/-- The paths that the login handles itself: redirect, logout, and login where there is one. -/
def Login.ownPaths (l : Login) : List String :=
  [l.redirectPath, l.logoutPath] ++ l.loginPath.toList

end LoginGate.Policy
