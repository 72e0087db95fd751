/-!
# Numerals

Digits in bases up to sixteen, the value of a run of digits, and decimal numerals padded to a
width.  `decimalValue?` reads back what `Nat.repr` writes, and refuses anything that is not a
non-empty run of digits.
-/

namespace LoginGate.Text

/-- The digit of value `n`, in lower case; `n` is below sixteen. -/
def hexDigit (n : Nat) : Char :=
  if n < 10 then Char.ofNat (48 + n) else Char.ofNat (87 + n)

/-- The digit of value `n`, in upper case; `n` is below sixteen. -/
def hexDigitUpper (n : Nat) : Char :=
  if n < 10 then Char.ofNat (48 + n) else Char.ofNat (55 + n)

def isDigit (c : Char) : Bool := 48 ≤ c.toNat && c.toNat ≤ 57

/-- The value of a digit in bases up to thirty-six, letters in either case. -/
def digitValue? (c : Char) : Option Nat :=
  let n := c.toNat
  if 48 ≤ n ∧ n ≤ 57 then some (n - 48)
  else if 97 ≤ n ∧ n ≤ 122 then some (n - 87)
  else if 65 ≤ n ∧ n ≤ 90 then some (n - 55)
  else none

def hexValue? (c : Char) : Option Nat := (digitValue? c).filter (· < 16)

/-- The value of the digits, most significant first, on top of `acc`. -/
def digitsFrom? (base : Nat) (acc : Nat) : List Char → Option Nat
  | [] => some acc
  | c :: rest => do
    let d ← (digitValue? c).filter (· < base)
    digitsFrom? base (acc * base + d) rest

/-- The value of a non-empty run of digits in `base`. -/
def numeral? (base : Nat) : List Char → Option Nat
  | [] => none
  | s => digitsFrom? base 0 s

def decimalValue? (s : List Char) : Option Nat := numeral? 10 s

/-- The numeral of `n` in `base`, in lower case. -/
def inBase (base n : Nat) : List Char := (Nat.toDigits base n)

def decimal (n : Nat) : List Char := Nat.toDigits 10 n

/-- A numeral with zeros in front, at least `width` characters long. -/
def padZeros (width : Nat) (s : List Char) : List Char :=
  List.replicate (width - s.length) '0' ++ s

def dropTrailingZeros (s : List Char) : List Char := (s.reverse.dropWhile (· == '0')).reverse

/-- ASCII capitals replaced by small letters. -/
def lowerChar (c : Char) : Char :=
  if 65 ≤ c.toNat ∧ c.toNat ≤ 90 then Char.ofNat (c.toNat + 32) else c

def lowerAscii (s : List Char) : List Char := s.map lowerChar

end LoginGate.Text
