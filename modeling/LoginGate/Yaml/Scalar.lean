import LoginGate.Number.Reading
import LoginGate.Text.Pieces

/-!
# What a plain scalar stands for

A plain scalar is null, a truth value, a number or a text, by the core schema.  Whole numbers may be
written in base ten, sixteen (`0x`), eight (`0o`) or two (`0b`); digits after a needless zero are a
text.
-/

namespace LoginGate.Yaml

open LoginGate.Text LoginGate.Number

/-- What a plain scalar stands for. -/
inductive Resolution where
  | null
  | bool (value : Bool)
  | whole (value : Int)
  /-- A whole number of more than 64 but not more than 128 bits. -/
  | wide
  | real (value : Extended)
  | text
  deriving DecidableEq, Repr

/-- The words for null, besides nothing at all. -/
def isNullWord (s : List Char) : Bool :=
  s == "null".toList || s == "Null".toList || s == "NULL".toList || s == ['~']

def bool? (s : List Char) : Option Bool :=
  if s = "true".toList ∨ s = "True".toList ∨ s = "TRUE".toList then some true
  else if s = "false".toList ∨ s = "False".toList ∨ s = "FALSE".toList then some false
  else none

/-- Digits with a needless zero in front, after an optional sign. -/
def isPaddedDigits (s : List Char) : Bool :=
  match (signed s).2 with
  | '0' :: c :: rest => (c :: rest).all isDigit
  | _ => false

/-- The magnitude of a whole number without its sign, in any of the four bases. -/
def magnitude? : List Char → Option Nat
  | '0' :: 'x' :: rest => numeral? 16 rest
  | '0' :: 'o' :: rest => numeral? 8 rest
  | '0' :: 'b' :: rest => numeral? 2 rest
  | s => decimalValue? s

/-- The whole number that a text writes. -/
def whole? (s : List Char) : Option Int :=
  if isPaddedDigits s then none
  else match signed s with
    | (true, rest) => (magnitude? rest).map fun n => -(n : Int)
    | (false, rest) => (magnitude? rest).map fun n => (n : Int)

/-- A whole number by its size: one of more than 128 bits is none. -/
def ofWhole? (z : Int) : Option Resolution :=
  if isSigned 64 z ∨ isUnsigned 64 z then some (.whole z)
  else if isSigned 128 z ∨ isUnsigned 128 z then some .wide
  else none

/-- The whole number of at most 128 bits that a text writes. -/
def wholeResolution? (s : List Char) : Option Resolution := whole? s >>= ofWhole?

/-- The real number that a text writes; infinities and not-a-number have names that start with a
point. -/
def real? (s : List Char) : Option Extended :=
  let (negative, rest) := signed s
  if rest = ".inf".toList ∨ rest = ".Inf".toList ∨ rest = ".INF".toList then
    some (.infinite negative)
  else if s = ".nan".toList ∨ s = ".NaN".toList ∨ s = ".NAN".toList then some .notANumber
  else match readFraction? negative rest with
    | some (.finite x) => some (.finite x)
    | _ => none

def resolve (s : List Char) : Resolution :=
  if s.isEmpty || isNullWord s then .null
  else match bool? s with
    | some value => .bool value
    | none => match wholeResolution? s with
      | some resolution => resolution
      | none =>
        if isPaddedDigits s then .text
        else match real? s with
          | some x => .real x
          | none => .text

end LoginGate.Yaml
