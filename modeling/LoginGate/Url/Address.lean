import LoginGate.Text.Pieces
import LoginGate.Text.Numeral

/-!
# Network addresses in hosts

Addresses of 32 bits are up to four numbers between dots, each decimal, octal or hexadecimal, the
last one filling the bytes that are left.  Addresses of 128 bits are eight pieces between colons; a
run of zeros may be left out once, and the last two pieces may be written as four bytes.
-/

namespace LoginGate.Url

open LoginGate.Text

/-! ## Addresses of 32 bits -/

/-- A number: hexadecimal after `0x`, octal after a needless `0`, else decimal. -/
def addressNumber? (s : List Char) : Option Nat :=
  match s with
  | ['0'] => some 0
  | '0' :: x :: rest =>
    if x = 'x' ∨ x = 'X' then (if rest.isEmpty then some 0 else numeral? 16 rest)
    else numeral? 8 (x :: rest)
  | s => decimalValue? s

/-- The pieces between dots, without an empty one at the end. -/
def addressPieces (s : List Char) : List (List Char) :=
  let all := pieces '.' s
  if 1 < all.length ∧ all.getLast? = some [] then all.dropLast else all

/-- Is a name meant as an address?  It is, if its last piece is a number. -/
def endsInNumber (s : List Char) : Bool :=
  match (addressPieces s).getLast? with
  | some last => (!last.isEmpty && last.all isDigit) || (addressNumber? last).isSome
  | none => false

/-- The address of 32 bits that a name writes. -/
def ipv4? (s : List Char) : Option Nat := do
  let parts := addressPieces s
  if 4 < parts.length then none
  let numbers ← parts.mapM addressNumber?
  let last ← numbers.getLast?
  let bytes := numbers.dropLast
  if bytes.all (· < 256) ∧ last < Nat.pow 256 (4 - bytes.length) then
    some (bytes.foldl (fun n b => n * 256 + b) 0 * Nat.pow 256 (4 - bytes.length) + last)
  else none

/-- The four bytes of an address in decimal. -/
def ipv4Text (n : Nat) : List Char :=
  join ['.'] ([n / 0x1000000, n / 0x10000 % 256, n / 0x100 % 256, n % 256].map decimal)

/-! ## Addresses of 128 bits -/

/-- A byte of a dotted ending: no needless zeros. -/
def byte? (s : List Char) : Option Nat :=
  match s with
  | '0' :: _ :: _ => none
  | s => (decimalValue? s).filter (· < 256)

/-- The two pieces of a dotted ending. -/
def dottedPieces? (s : List Char) : Option (List Nat) := do
  match ← (pieces '.' s).mapM byte? with
  | [a, b, c, d] => some [a * 256 + b, c * 256 + d]
  | _ => none

/-- A piece of up to four hexadecimal digits. -/
def piece? (s : List Char) : Option Nat := if s.length ≤ 4 then numeral? 16 s else none

/-- The pieces between colons; with `dotted` the last one may be four bytes. -/
def colonPieces? (dotted : Bool) : List (List Char) → Option (List Nat)
  | [] => some []
  | [s] =>
    match piece? s with
    | some n => some [n]
    | none => if dotted then dottedPieces? s else none
  | s :: rest => do some ((← piece? s) :: (← colonPieces? dotted rest))

/-- The pieces of a text, which may be empty. -/
def pieceRun? (dotted : Bool) (s : List Char) : Option (List Nat) :=
  if s.isEmpty then some [] else colonPieces? dotted (pieces ':' s)

/-- The parts before and after the first double colon. -/
def cutAtGap? : List Char → Option (List Char × List Char)
  | ':' :: ':' :: rest => some ([], rest)
  | c :: rest => (cutAtGap? rest).map fun cut => (c :: cut.1, cut.2)
  | [] => none

/-- The eight pieces that a text writes. -/
def ipv6? (s : List Char) : Option (List Nat) :=
  match cutAtGap? s with
  | none => (pieceRun? true s).filter fun l => l.length = 8
  | some (before, after) => do
    let lead ← pieceRun? false before
    let tail ← pieceRun? true after
    if lead.length + tail.length < 8 then
      some (lead ++ List.replicate (8 - lead.length - tail.length) 0 ++ tail)
    else none

/-- The length of the run of zeros at the start. -/
def zeroRun (l : List Nat) : Nat := (l.takeWhile (· == 0)).length

/-- Where the longest run of zeros starts, and how long it is; the first of several. -/
def longestZeros (l : List Nat) : Nat × Nat :=
  (List.range l.length).foldl
    (fun best i => if best.2 < zeroRun (l.drop i) then (i, zeroRun (l.drop i)) else best) (0, 0)

/-- Pieces in hexadecimal, with colons between them. -/
def hexPieces (l : List Nat) : List Char := join [':'] (l.map (inBase 16))

/-- An address of 128 bits: the longest run of two or more zeros is left out, and an address that
holds one of 32 bits shows it. -/
def ipv6Text (l : List Nat) : List Char :=
  match l with
  | [0, 0, 0, 0, 0, 0xFFFF, a, b] => "::ffff:".toList ++ ipv4Text (a * 65536 + b)
  | l =>
    let (start, length) := longestZeros l
    if length < 2 then hexPieces l
    else hexPieces (l.take start) ++ [':', ':'] ++ hexPieces (l.drop (start + length))

end LoginGate.Url
