import LoginGate.Identity.Discovery
import LoginGate.Identity.Provider

/-!
# From a URI to endpoints

`resolve` asks the known providers first, and fetches one document at most.  A `Pass` is a
computation that may fetch documents: it takes what would be fetched, and gives its result together
with the URIs that it asked for, in order.
-/

namespace LoginGate.Identity

open LoginGate.Text

/-- What a URI answers with when its document is asked for. -/
abbrev Fetch := String → Except CompileError DiscoveryDocument

/-- What a pass gives: a result, and the URIs that were asked for. -/
structure Outcome (α : Type) where
  result : Except CompileError α
  asked : List String := []

/-- A computation that may fetch documents. -/
def Pass (α : Type) : Type := Fetch → Outcome α

namespace Pass

def run {α : Type} (p : Pass α) (fetch : Fetch) : Outcome α := p fetch

/-- A result that needs no document. -/
def ofExcept {α : Type} (result : Except CompileError α) : Pass α := fun _ => { result }

/-- One pass after another; the second is left out if the first fails. -/
def andThen {α β : Type} (p : Pass α) (next : α → Pass β) : Pass β := fun fetch =>
  let first := p fetch
  match first.result with
  | .error e => { result := .error e, asked := first.asked }
  | .ok value =>
    let second := next value fetch
    { result := second.result, asked := first.asked ++ second.asked }

instance : Monad Pass where
  pure value := ofExcept (.ok value)
  bind := andThen

def document (uri : String) : Pass DiscoveryDocument := fun fetch =>
  { result := fetch uri, asked := [uri] }

@[simp] theorem run_ofExcept {α : Type} (result : Except CompileError α) (fetch : Fetch) :
    (ofExcept result).run fetch = { result } := rfl

@[simp] theorem run_document (uri : String) (fetch : Fetch) :
    (document uri).run fetch = { result := fetch uri, asked := [uri] } := rfl

@[simp] theorem run_pure {α : Type} (value : α) (fetch : Fetch) :
    (pure value : Pass α).run fetch = { result := .ok value } := rfl

theorem run_bind_ok {α β : Type} {p : Pass α} {next : α → Pass β} {fetch : Fetch} {value : α}
    (h : (p.run fetch).result = .ok value) :
    (p >>= next).run fetch =
      { result := ((next value).run fetch).result
        asked := (p.run fetch).asked ++ ((next value).run fetch).asked } := by
  simp only [run] at h
  simp only [bind, andThen, run, h]

theorem run_bind_error {α β : Type} {p : Pass α} {next : α → Pass β} {fetch : Fetch}
    {e : CompileError} (h : (p.run fetch).result = .error e) :
    (p >>= next).run fetch = { result := .error e, asked := (p.run fetch).asked } := by
  simp only [run] at h
  simp only [bind, andThen, run, h]

end Pass

/-- The endpoints of the provider at a URI: none for a blank URI, those of the first known provider
that recognises it, or else those of its discovery document. -/
def resolve (providers : List Provider) (uri : String) : Pass Endpoints :=
  let uri := trim uri
  if uri.isEmpty then .ofExcept (.error (.configuration .uriUnset))
  else match recognise providers uri with
    | some (_, endpoints) => pure endpoints
    | none => do
      let document ← Pass.document uri
      .ofExcept (document.endpoints uri)

end LoginGate.Identity
