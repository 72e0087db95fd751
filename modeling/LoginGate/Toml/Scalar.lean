import LoginGate.Number.Reading
import LoginGate.Text.Numeral

/-!
# Values, and scalars without quotes

A scalar without quotes is a truth value, a number, a date or a time.  Between two digits of a
number may stand an underscore.  Whole numbers have 64 bits and no needless zeros; a fraction has
digits on both sides of its point, and is not too large for the format.

A date, a time of day, or both, the latter with or without an offset.  `moment?` gives the canonical
text: `T` between the two, `Z` for no offset, and no zeros at the end of a fraction, which has nine
digits at most.
-/

namespace LoginGate.Toml

open LoginGate.Text LoginGate.Number

/-! ## Dates and times -/

/-- A number of exactly so many digits within bounds, and what follows it. -/
def digits? (count low high : Nat) (s : List Char) : Option (Nat × List Char) := do
  let digits := s.take count
  if digits.length = count ∧ digits.all isDigit then
    let n ← decimalValue? digits
    if low ≤ n ∧ n ≤ high then some (n, s.drop count) else none
  else none

def after? (c : Char) (s : List Char) : Option (List Char) :=
  match s with
  | d :: rest => if c = d then some rest else none
  | [] => none

/-- A number with two digits or more. -/
def twoDigits (n : Nat) : List Char := padZeros 2 (decimal n)

def daysIn (year month : Nat) : Nat :=
  if month = 2 then
    if year % 4 = 0 ∧ (year % 100 ≠ 0 ∨ year % 400 = 0) then 29 else 28
  else if month ∈ [4, 6, 9, 11] then 30 else 31

def date? (s : List Char) : Option (List Char × List Char) := do
  let (year, rest) ← digits? 4 0 9999 s
  let (month, rest) ← digits? 2 1 12 (← after? '-' rest)
  let (day, rest) ← digits? 2 1 (daysIn year month) (← after? '-' rest)
  some (padZeros 4 (decimal year) ++ '-' :: twoDigits month ++ '-' :: twoDigits day, rest)

def timeOfDay? (s : List Char) : Option (List Char × List Char) := do
  let (hour, rest) ← digits? 2 0 23 s
  let (minute, rest) ← digits? 2 0 59 (← after? ':' rest)
  let (second, rest) ← digits? 2 0 60 (← after? ':' rest)
  let text := twoDigits hour ++ ':' :: twoDigits minute ++ ':' :: twoDigits second
  match rest with
  | '.' :: rest =>
    let fraction := rest.takeWhile isDigit
    if fraction.isEmpty then none
    else
      let kept := dropTrailingZeros (fraction.take 9)
      some (text ++ (if kept.isEmpty then [] else '.' :: kept), rest.dropWhile isDigit)
  | rest => some (text, rest)

/-- An offset at the end of a text; nothing is no offset. -/
def offset? (s : List Char) : Option (List Char) :=
  match s with
  | [] => some []
  | ['Z'] => some ['Z']
  | ['z'] => some ['Z']
  | sign :: rest =>
    if sign = '+' ∨ sign = '-' then do
      let (hour, rest) ← digits? 2 0 23 rest
      let (minute, rest) ← digits? 2 0 59 (← after? ':' rest)
      let sign := if hour = 0 ∧ minute = 0 then '+' else sign
      if rest.isEmpty then some (sign :: twoDigits hour ++ ':' :: twoDigits minute) else none
    else none

/-- The canonical text of a date, a time, or both. -/
def moment? (s : List Char) : Option (List Char) :=
  match timeOfDay? s with
  | some (time, []) => some time
  | _ => do
    let (date, rest) ← date? s
    match rest with
    | [] => some date
    | sep :: rest =>
      if sep ∈ ['T', 't', ' '] then do
        let (time, rest) ← timeOfDay? rest
        some (date ++ 'T' :: time ++ (← offset? rest))
      else none

/-! ## Values -/

/-- A value of a document.  A date or a time is kept as its canonical text. -/
inductive Value where
  | text (value : String)
  | whole (value : Int)
  | real (value : Number.Extended)
  | bool (value : Bool)
  | moment (canonical : String)
  | list (items : List Value)
  | table (members : List (String × Value))
  deriving Repr, Inhabited

/-- Digits in which single underscores stand between digits only, without the underscores.  `last`
is the character before. -/
def plainDigitsFrom? (p : Char → Bool) (last : Char) : List Char → Option (List Char)
  | [] => if last = '_' then none else some []
  | c :: rest =>
    if c = '_' then if last = '_' then none else plainDigitsFrom? p c rest
    else if p c then (plainDigitsFrom? p c rest).map (c :: ·)
    else none

def plainDigits? (p : Char → Bool) (s : List Char) : Option (List Char) :=
  plainDigitsFrom? p '_' s

/-- Decimal digits without a needless zero. -/
def decimalDigits? (s : List Char) : Option (List Char) := do
  let digits ← plainDigits? isDigit s
  match digits with
  | '0' :: _ :: _ => none
  | digits => some digits

def wholeOf? (negative : Bool) (n : Nat) : Option Value :=
  let z : Int := if negative then -n else n
  if isSigned 64 z then some (.whole z) else none

/-- A whole number in a base other than ten. -/
def basedNumber? (base : Nat) (s : List Char) : Option Value := do
  let digits ← plainDigits? (fun c => (numeral? base [c]).isSome) s
  wholeOf? false (← numeral? base digits)

/-- The power of ten at the end of a fraction. -/
def powerDigits? (s : List Char) : Option (List Char) :=
  match s with
  | [] => some []
  | e :: rest =>
    if e = 'e' ∨ e = 'E' then
      let sign := match rest with
        | '-' :: _ => ['-']
        | _ => []
      (plainDigits? isDigit (signed rest).2).map fun digits => 'e' :: sign ++ digits
    else none

/-- A number after its sign: whole, or with a fraction or a power of ten. -/
def decimalNumber? (negative : Bool) (s : List Char) : Option Value := do
  let inWhole := fun c => isDigit c || c = '_'
  let whole ← decimalDigits? (s.takeWhile inWhole)
  match s.dropWhile inWhole with
  | [] => wholeOf? negative (← decimalValue? whole)
  | rest => do
    let (fraction, rest) ← match rest with
      | '.' :: rest => do
        let fraction ← plainDigits? isDigit (rest.takeWhile inWhole)
        some ('.' :: fraction, rest.dropWhile inWhole)
      | rest => some ([], rest)
    match ← readFraction? negative (whole ++ fraction ++ (← powerDigits? rest)) with
    | .finite x => some (.real (.finite x))
    | _ => none

def number? (s : List Char) : Option Value :=
  let (negative, rest) := signed s
  if rest = "inf".toList then some (.real (.infinite negative))
  else if rest = "nan".toList then some (.real .notANumber)
  else decimalNumber? negative rest

def scalar? (s : List Char) : Option Value :=
  match s with
  | '0' :: 'x' :: rest => basedNumber? 16 rest
  | '0' :: 'o' :: rest => basedNumber? 8 rest
  | '0' :: 'b' :: rest => basedNumber? 2 rest
  | s =>
    if s = "true".toList then some (.bool true)
    else if s = "false".toList then some (.bool false)
    else (number? s).or ((moment? s).map fun text => .moment (String.ofList text))

end LoginGate.Toml
