import LoginGate.Filter.Generation
import LoginGate.Filter.Fields
import LoginGate.Identity.Derivation
import LoginGate.Identity.Resolution

/-!
# Compiling a policy

A policy is checked before anything is fetched.  Then its provider's endpoints are resolved, the
network target is derived from them, and the filter is generated.  The first error ends the
compilation.
-/

namespace LoginGate

open LoginGate.Identity LoginGate.Filter LoginGate.Text

structure Compiler where
  providers : List Provider
  proxy : ProxySettings
  deriving Inhabited

namespace Compiler

def ofSettings (s : Settings) : Except CompileError Compiler := do
  return { providers := ← knownProviders s.discovery.offlineProviders, proxy := s.proxy }

/-- The endpoints at a URI, and the network target that goes with them. -/
def locate (c : Compiler) (uri : String) : Pass (Endpoints × NetworkTarget) := do
  let uri := trim uri
  let endpoints ← resolve c.providers uri
  let target ← Pass.ofExcept (NetworkTarget.derive endpoints.token uri)
  return (endpoints, target)

/-- The policy with its provider. -/
def compile (c : Compiler) (p : Policy) : Pass CompiledPolicy := do
  Pass.ofExcept p.check
  let (endpoints, target) ← c.locate p.spec.wellKnownURI
  Pass.ofExcept (p.compiled endpoints target)

def compileFilter (c : Compiler) (p : Policy) : Pass EnvoyFilter := do
  let compiled ← c.compile p
  Pass.ofExcept (generate c.proxy compiled)

end Compiler

end LoginGate
