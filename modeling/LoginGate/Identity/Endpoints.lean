/-!
# Endpoints and network target of an identity provider
-/

namespace LoginGate

/-- Where a browser logs in, where the proxy fetches tokens, and where a browser logs out if the
provider has such a place. -/
structure Endpoints where
  authorize : String
  token : String
  endSession : Option String
  deriving DecidableEq, Repr, Inhabited

/-- Where a browser logs out, empty if there is no such place. -/
def Endpoints.endSessionOrEmpty (e : Endpoints) : String := e.endSession.getD ""

/-- The host and port of an identity provider, and the scheme that is spoken there. -/
structure NetworkTarget where
  scheme : String
  host : String
  port : Nat
  deriving DecidableEq, Repr, Inhabited

namespace NetworkTarget

/-- Is the connection encrypted? -/
def tls (t : NetworkTarget) : Bool := t.scheme == "https"

/-- The target as a URL without a path. -/
def text (t : NetworkTarget) : String := t.scheme ++ "://" ++ t.host ++ ":" ++ t.port.repr

end NetworkTarget

end LoginGate
