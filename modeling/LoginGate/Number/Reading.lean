import LoginGate.Number.Binary64
import LoginGate.Text.Numeral

/-!
# Reading decimal fractions

`readDecimal?` reads an optional sign, digits with an optional point among or beside them, and an
optional power of ten, and rounds once.  The words for numbers that are not finite count too, in any
case.
-/

namespace LoginGate.Number

open LoginGate.Text

/-- An optional sign, and what follows it. -/
def signed (s : List Char) : Bool × List Char :=
  match s with
  | '-' :: rest => (true, rest)
  | '+' :: rest => (false, rest)
  | rest => (false, rest)

/-- The value of a written power of ten: an optional sign and digits. -/
def readPower? (s : List Char) : Option Int :=
  let (negative, digits) := signed s
  (decimalValue? digits).map fun n => if negative then -(n : Int) else n

/-- The power of ten at the end of a number; nothing stands for zero. -/
def readPowerPart? : List Char → Option Int
  | [] => some 0
  | c :: rest => if c = 'e' ∨ c = 'E' then readPower? rest else none

/-- A fraction without its sign. -/
def readFraction? (negative : Bool) (s : List Char) : Option Extended :=
  let whole := s.takeWhile isDigit
  let (fraction, tail) := match s.dropWhile isDigit with
    | '.' :: rest => (rest.takeWhile isDigit, rest.dropWhile isDigit)
    | rest => ([], rest)
  match whole ++ fraction with
  | [] => none
  | digits => do
    let value ← decimalValue? digits
    let power ← readPowerPart? tail
    some (Extended.ofDecimal negative value (power - fraction.length))

/-- The number that a text writes. -/
def readDecimal? (s : List Char) : Option Extended :=
  let (negative, rest) := signed s
  let word := lowerAscii rest
  if word = "inf".toList ∨ word = "infinity".toList then some (.infinite negative)
  else if word = "nan".toList then some .notANumber
  else readFraction? negative rest

end LoginGate.Number
