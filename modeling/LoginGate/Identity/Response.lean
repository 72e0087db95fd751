import LoginGate.Identity.Discovery
import LoginGate.Json.Reader

/-!
# Discovery over HTTP

A request is one `GET`; `document` takes the document from what came back.  Of several things that
are wrong with a response the first in this order is reported: no response, its status, its
declared length, a body that breaks off, the length of the body, its JSON, its members.

A status of three digits from 200 on ends the exchange, as does 101; the other statuses below 200
only announce a response, and none follows.  After status 204 there is no body.
-/

namespace LoginGate.Identity

structure Client where
  /-- The greatest body that is read, in bytes. -/
  maxResponseSize : Nat
  userAgent : String
  deriving DecidableEq, Repr

/-- What the server sends after its status: the length that it declares, if it does, and the bytes
that arrive. -/
structure Body where
  declaredLength : Option Nat
  bytes : ByteArray

/-- What came back for a request. -/
inductive Response where
  /-- The connection was closed without a word. -/
  | dropped
  | received (status : Nat) (body : Body)

/-- A user agent has to be a header value: no control characters but tabs. -/
def isHeaderText (s : String) : Bool :=
  s.toList.all fun c => c = '\t' || (32 ≤ c.toNat && c.toNat ≠ 127)

/-- A client, if its user agent can be sent. -/
def Client.make (maxResponseSize : Nat) (userAgent : String) : Except CompileError Client :=
  if isHeaderText userAgent then .ok ⟨maxResponseSize, userAgent⟩
  else .error (.configuration .userAgentRefused)

/-- The nesting of lists and objects that is read. -/
def nestingLimit : Nat := 127

/-- The document that the bytes of a body write. -/
def documentOfBytes (bytes : ByteArray) : Except FetchFault DiscoveryDocument :=
  match String.fromUTF8? bytes with
  | none => .error .malformed
  | some s => match Json.read? nestingLimit s with
    | none => .error .malformed
    | some value => DiscoveryDocument.ofJson value

/-- Does the body break off before its declared length? -/
def Body.brokenOff (b : Body) : Bool :=
  match b.declaredLength with
  | some length => b.bytes.size < length
  | none => false

/-- The bytes of a body that are read: all of them, or as many as are declared. -/
def Body.read (b : Body) : ByteArray :=
  match b.declaredLength with
  | some length => b.bytes.extract 0 length
  | none => b.bytes

/-- Does a status end the exchange? -/
def isFinal (status : Nat) : Bool := status == 101 || (200 ≤ status && status ≤ 999)

/-- The body that belongs to a status. -/
def Body.under (status : Nat) (b : Body) : Body := if status = 204 then ⟨some 0, .empty⟩ else b

def Client.document (client : Client) : Response → Except FetchFault DiscoveryDocument
  | .dropped => .error .unreachable
  | .received status sent =>
    let body := sent.under status
    if !isFinal status then .error .unreachable
    else if status < 200 ∨ 300 ≤ status then .error (.status status)
    else if (body.declaredLength.any fun length => client.maxResponseSize < length) then
      .error (.tooLarge client.maxResponseSize)
    else if body.brokenOff then .error .unreachable
    else if client.maxResponseSize < body.read.size then .error (.tooLarge client.maxResponseSize)
    else documentOfBytes body.read

/-- The document that `uri` answers with. -/
def Client.fetch (client : Client) (uri : String) (response : Response) :
    Except CompileError DiscoveryDocument :=
  (client.document response).mapError fun fault => .discoveryFetch uri fault

end LoginGate.Identity
