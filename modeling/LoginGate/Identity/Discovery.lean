import LoginGate.CompileError
import LoginGate.Identity.Endpoints
import LoginGate.Text.Blank

/-!
# Discovery documents

A discovery document may name three endpoints.  The first two have to be there, and a blank one
counts as absent; every one that is missing is reported at once.
-/

namespace LoginGate.Identity

open LoginGate.Text

structure DiscoveryDocument where
  authorizationEndpoint : Option String := none
  tokenEndpoint : Option String := none
  endSessionEndpoint : Option String := none
  deriving DecidableEq, Repr, Inhabited

def nonBlank (s : Option String) : Option String := s.filter fun s => !isBlankText s

/-- The names of required endpoints that are absent. -/
def missing (required : List (String × Option String)) : List String :=
  (required.filter fun entry => entry.2.isNone).map Prod.fst

/-- The endpoints that the document published at `uri` names. -/
def DiscoveryDocument.endpoints (d : DiscoveryDocument) (uri : String) :
    Except CompileError Endpoints :=
  match nonBlank d.authorizationEndpoint, nonBlank d.tokenEndpoint with
  | some authorize, some token => .ok ⟨authorize, token, nonBlank d.endSessionEndpoint⟩
  | authorize, token =>
    .error (.discoveryIncomplete uri
      (missing [("authorization_endpoint", authorize), ("token_endpoint", token)]))

/-! ## Documents in JSON -/

/-- A member that is absent, null or a text; anything else is a fault. -/
def textMember (name : String) (document : Json) : Except FetchFault (Option String) :=
  match document.member? name with
  | none => .ok none
  | some .null => .ok none
  | some (.text s) => .ok (some s)
  | some _ => .error .malformed

/-- The document that a JSON object holds. -/
def DiscoveryDocument.ofJson (document : Json) : Except FetchFault DiscoveryDocument :=
  if document.isObject then do
    return ⟨← textMember "authorization_endpoint" document, ← textMember "token_endpoint" document,
      ← textMember "end_session_endpoint" document⟩
  else .error .notAnObject

end LoginGate.Identity
