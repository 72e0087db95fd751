import LoginGate.Number.Binary64
import LoginGate.Text.Numeral

/-!
# Fewest digits that read back

`shortest x` is the decimal `digits · 10 ^ exponent` with the fewest digits among those that round
to `x`, and of these the nearest to `x`.  Two ways of writing it down follow: `plainText` is always
positional, `scientificText` turns to powers of ten outside the range that its format keeps
positional.
-/

namespace LoginGate.Number

open LoginGate.Text

/-- The number `digits · 10 ^ exponent`. -/
structure Decimal where
  digits : Nat
  exponent : Int
  deriving DecidableEq, Repr, Inhabited

namespace Binary64

/-- The reals that round to a positive number, as bounds over a common denominator `4 * den`, where
`num / den` is the number itself; the bounds belong to the interval iff the mantissa is even. -/
structure Interval where
  low : Nat
  value : Nat
  high : Nat
  den : Nat
  closed : Bool

/-- The interval of the reals that round to `x`, which is not zero. -/
def interval (x : Binary64) : Interval :=
  let scale := twoTo x.exponent.toNat
  let below := if x.mantissa = twoTo 52 ∧ minExponent < x.exponent then 1 else 2
  { low := (4 * x.mantissa - below) * scale
    value := 4 * x.mantissa * scale
    high := (4 * x.mantissa + 2) * scale
    den := 4 * twoTo (-x.exponent).toNat
    closed := x.mantissa % 2 == 0 }

def Interval.contains (i : Interval) (num den : Nat) : Bool :=
  let low := i.low * den
  let point := num * i.den
  let high := i.high * den
  if i.closed then low ≤ point && point ≤ high else low < point && point < high

/-- The distance of `num / den` from the middle, over the denominator `i.den * den`. -/
def Interval.distance (i : Interval) (num den : Nat) : Nat :=
  let point := num * i.den
  let middle := i.value * den
  if point ≤ middle then middle - point else point - middle

/-- The greatest `k` with `10 ^ k ≤ num / den`, found from an estimate by at most `fuel` steps. -/
def floorLog10From (num den : Nat) : Nat → Int → Int
  | 0, k => k
  | fuel + 1, k =>
    if num * tenTo (-k).toNat < den * tenTo k.toNat then floorLog10From num den fuel (k - 1)
    else if den * tenTo (k + 1).toNat ≤ num * tenTo (-(k + 1)).toNat then
      floorLog10From num den fuel (k + 1)
    else k

/-- The greatest `k` with `10 ^ k ≤ num / den`. -/
def floorLog10 (num den : Nat) : Int :=
  floorLog10From num den 8 (((num.log2 : Int) - (den.log2 : Int)) * 30103 / 100000)

/-- The grid point of `10 ^ unit` nearest to the middle among the two neighbours that lie in the
interval. -/
def Interval.onGrid? (i : Interval) (unit : Int) : Option Decimal :=
  let num := tenTo unit.toNat
  let den := tenTo (-unit).toNat
  let floor := (i.value * den) / (i.den * num)
  let inside (d : Nat) : Bool := i.contains (d * num) den
  let distance (d : Nat) : Nat := i.distance (d * num) den
  match inside floor, inside (floor + 1) with
  | true, true =>
    if distance floor < distance (floor + 1) then some ⟨floor, unit⟩
    else if distance (floor + 1) < distance floor then some ⟨floor + 1, unit⟩
    else if floor % 2 = 0 then some ⟨floor, unit⟩ else some ⟨floor + 1, unit⟩
  | true, false => some ⟨floor, unit⟩
  | false, true => some ⟨floor + 1, unit⟩
  | false, false => none

/-- The first grid with a point in the interval, from the coarsest on. -/
def Interval.firstGrid (i : Interval) (top : Int) : Nat → Nat → Decimal
  | _, 0 => ⟨0, 0⟩
  | count, fuel + 1 =>
    match i.onGrid? (top + 1 - count) with
    | some d => if d.digits = 0 then i.firstGrid top (count + 1) fuel else d
    | none => i.firstGrid top (count + 1) fuel

/-- The decimal with the fewest digits that rounds to the magnitude of `x`. -/
def shortest (x : Binary64) : Decimal :=
  if x.isZero then ⟨0, 0⟩
  else
    let i := x.interval
    i.firstGrid (floorLog10 i.value i.den) 1 20

/-- The digits of the shortest decimal without zeros at the end, and the power of ten of the first
one. -/
def leadingForm (x : Binary64) : List Char × Int :=
  let d := x.shortest
  let all := decimal d.digits
  (match dropTrailingZeros all with | [] => ['0'] | digits => digits,
    d.exponent + (all.length : Int) - 1)

/-- The shortest digits with the point at its place, `point` digits before it.  A whole number ends
in `whole`. -/
def positional (digits : List Char) (power : Int) (whole : List Char) : List Char :=
  if power < 0 then
    ['0', '.'] ++ List.replicate (-power - 1).toNat '0' ++ digits
  else
    let before := power.toNat + 1
    if digits.length ≤ before then
      digits ++ List.replicate (before - digits.length) '0' ++ whole
    else digits.take before ++ ['.'] ++ digits.drop before

def signText (x : Binary64) : List Char := if x.negative then ['-'] else []

/-- Positional at any size, a whole number without a point. -/
def plainText (x : Binary64) : List Char :=
  let (digits, power) := x.leadingForm
  x.signText ++ positional digits power []

/-- The sizes that `scientificText` writes positionally: `10 ^ low ≤ |x| < 10 ^ high`. -/
structure PositionalRange where
  low : Int
  high : Int

/-- Positional inside the range, a whole number with one zero after its point; outside of it one
digit before the point and a signed power of ten. -/
def scientificText (range : PositionalRange) (x : Binary64) : List Char :=
  let (digits, power) := x.leadingForm
  x.signText ++
    if x.isZero ∨ (range.low ≤ power ∧ power < range.high) then
      positional digits power ['.', '0']
    else
      let head := digits.take 1 ++ (match digits.drop 1 with | [] => [] | rest => '.' :: rest)
      let sign := if power < 0 then '-' else '+'
      head ++ 'e' :: sign :: decimal power.natAbs

end Binary64

/-- Positional at any size, with words for the numbers that are not finite. -/
def Extended.plainText : Extended → List Char
  | .finite x => x.plainText
  | .infinite true => "-inf".toList
  | .infinite false => "inf".toList
  | .notANumber => "NaN".toList

end LoginGate.Number
