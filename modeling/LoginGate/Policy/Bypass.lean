import LoginGate.Lua.Pattern
import LoginGate.Policy.Compiled
import LoginGate.Text.Bytes

/-!
# Which requests pass without a login

A request passes when a rule of the ignored ones applies to it and no rule of the required ones
does. This is what the script decides from the tables that it is given.
-/

namespace LoginGate

open LoginGate.Text

namespace Access

/-- What rules look at, as bytes: the path without its query, and the method. -/
structure Request where
  path : List UInt8
  method : List UInt8
  deriving DecidableEq, Repr

/-- The request with a target as it was sent, which may have a query behind its path. -/
def Request.ofTarget (target method : List UInt8) : Request :=
  ⟨target.takeWhile (· ≠ 63), method⟩

def Rule.matchesPath (r : Rule) (path : List UInt8) : Bool :=
  Lua.finds (textBytes r.pattern) path

def Rule.hasMethod (r : Rule) (method : List UInt8) : Bool :=
  r.methods.isEmpty || r.methods.any fun m => textBytes m == method

def Rule.appliesTo (r : Rule) (q : Request) : Bool := r.matchesPath q.path && r.hasMethod q.method

def anyApplies (rules : List Rule) (q : Request) : Bool := rules.any fun r => r.appliesTo q

end Access

/-- Does a request pass without a login? -/
def CompiledPolicy.bypasses (c : CompiledPolicy) (q : Access.Request) : Bool :=
  Access.anyApplies c.ignore q && !Access.anyApplies c.require q

end LoginGate
