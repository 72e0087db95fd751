/-!
# Binary floating point with 53 bits

A finite number of the 64-bit binary format, as its sign, mantissa and exponent.  Every operation
is an exact quotient of natural numbers, rounded once by `ofRatio`:

    ofRatio neg num den  =  the nearest number of the format to ±num/den, ties to an even mantissa,
                            none when that is beyond the largest finite number

so sums, products and quotients are correctly rounded by construction.
-/

namespace LoginGate.Number

/-! ## Powers of two and ten -/

abbrev twoTo (n : Nat) : Nat := Nat.pow 2 n

abbrev tenTo (n : Nat) : Nat := Nat.pow 10 n

/-- Is `z` a number of so many bits without a sign? -/
def isUnsigned (bits : Nat) (z : Int) : Bool := 0 ≤ z && z < twoTo bits

/-- Is `z` a number of so many bits, one of which is its sign? -/
def isSigned (bits : Nat) (z : Int) : Bool := -(twoTo (bits - 1) : Int) ≤ z && z < twoTo (bits - 1)

/-! ## Numbers of the format -/

/-- The number `±mantissa · 2 ^ exponent`. -/
structure Binary64 where
  negative : Bool
  mantissa : Nat
  exponent : Int
  deriving DecidableEq, Repr, Inhabited

/-- A number of the format, an infinity, or not a number. -/
inductive Extended where
  | finite (x : Binary64)
  | infinite (negative : Bool)
  | notANumber
  deriving DecidableEq, Repr, Inhabited

/-- The quotient `num / den` rounded to the nearest natural number, a half to the even one. -/
def roundDiv (num den : Nat) : Nat :=
  let q := num / den
  let r := num % den
  if 2 * r < den then q
  else if den < 2 * r then q + 1
  else if q % 2 = 0 then q else q + 1

namespace Binary64

def minExponent : Int := -1074

def maxExponent : Int := 971

def zero (negative : Bool) : Binary64 := ⟨negative, 0, minExponent⟩

def isZero (x : Binary64) : Bool := x.mantissa == 0

/-- The numerator and the denominator of `mantissa · 2 ^ exponent`. -/
def ratio (x : Binary64) : Nat × Nat :=
  (x.mantissa * twoTo x.exponent.toNat, twoTo (-x.exponent).toNat)

/-- The exponent at which `num / den` has a mantissa of 53 bits, or the least one. -/
def exponentFor (num den : Nat) : Int :=
  let e : Int := (num.log2 : Int) - (den.log2 : Int) - 52
  let short := num * twoTo (-e).toNat < twoTo 52 * (den * twoTo e.toNat)
  max (if short then e - 1 else e) minExponent

/-- The number of the format nearest to `±num / den`. -/
def ofRatio (negative : Bool) (num den : Nat) : Option Binary64 :=
  if num = 0 then some (zero negative)
  else
    let e := exponentFor num den
    let m := roundDiv (num * twoTo (-e).toNat) (den * twoTo e.toNat)
    let x : Binary64 := if m = twoTo 53 then ⟨negative, twoTo 52, e + 1⟩ else ⟨negative, m, e⟩
    if maxExponent < x.exponent then none else some x

def ofNat? (n : Nat) : Option Binary64 := ofRatio false n 1

def neg (x : Binary64) : Binary64 := { x with negative := !x.negative }

def mul (x y : Binary64) : Option Binary64 :=
  let (a, b) := x.ratio
  let (c, d) := y.ratio
  ofRatio (x.negative != y.negative) (a * c) (b * d)

/-- The quotient, rounded; `y` is not zero. -/
def div (x y : Binary64) : Option Binary64 :=
  let (a, b) := x.ratio
  let (c, d) := y.ratio
  ofRatio (x.negative != y.negative) (a * d) (b * c)

/-- The sum of two numbers that are not negative, rounded. -/
def addMagnitudes (x y : Binary64) : Option Binary64 :=
  let (a, b) := x.ratio
  let (c, d) := y.ratio
  ofRatio false (a * d + c * b) (b * d)

def powerOfTen? (k : Nat) : Option Binary64 := ofRatio false (tenTo k) 1

/-- The number of the format nearest to `±digits · 10 ^ exponent`. -/
def ofDecimal (negative : Bool) (digits : Nat) (exponent : Int) : Option Binary64 :=
  ofRatio negative (digits * tenTo exponent.toNat) (tenTo (-exponent).toNat)

/-- The nearest natural number to the magnitude, a half upwards. -/
def roundAway (x : Binary64) : Nat :=
  let (a, b) := x.ratio
  (2 * a + b) / (2 * b)

end Binary64

/-- Rounds like `Binary64.ofDecimal`, to an infinity when the magnitude is too large.

A magnitude of `10 ^ 400` or more, or of `10 ^ (-400)` or less, is beyond the format, so its power
of ten is not computed. -/
def Extended.ofDecimal (negative : Bool) (digits : Nat) (exponent : Int) : Extended :=
  let size : Int := (Nat.toDigits 10 digits).length
  if digits = 0 ∨ size + exponent < -400 then .finite (Binary64.zero negative)
  else if 400 < size + exponent then .infinite negative
  else match Binary64.ofDecimal negative digits exponent with
    | some x => .finite x
    | none => .infinite negative

end LoginGate.Number
