import LoginGate.KeyMap
import LoginGate.Number.Shortest

/-!
# JSON values

A value is null, a truth value, a number, a text, a list, or an object.  The members of an object
that was read, or made by `ofMembers`, ascend by key; an object made for writing lists them in the
order in which they are written.  A number is a whole number between `-2 ^ 63` and `2 ^ 64 - 1`, or
a finite binary floating-point number.
-/

namespace LoginGate

inductive Json.Number where
  | whole (value : Int)
  | real (value : Number.Binary64)
  deriving DecidableEq, Repr, Inhabited

inductive Json where
  | null
  | bool (value : Bool)
  | number (value : Json.Number)
  | text (value : String)
  | list (items : List Json)
  | object (members : List (String × Json))
  deriving Repr, Inhabited

namespace Json

/-- An object from its members; the last of several with one key counts. -/
def ofMembers (members : List (String × Json)) : Json := object (KeyMap.ofPairs members)

def ofNat (n : Nat) : Json := number (.whole n)

/-- The members of an object; none of anything else. -/
def members : Json → List (String × Json)
  | object members => members
  | _ => []

def member? (key : String) (value : Json) : Option Json := KeyMap.find? key value.members

def isObject : Json → Bool
  | object _ => true
  | _ => false

/-- The whole numbers that a number can hold. -/
def Number.fits (z : Int) : Bool := Number.isSigned 64 z || Number.isUnsigned 64 z

/-- Real numbers are positional from `10 ^ (-5)` up to `10 ^ 16`. -/
def Number.range : Number.Binary64.PositionalRange := ⟨-5, 16⟩

end Json

end LoginGate
