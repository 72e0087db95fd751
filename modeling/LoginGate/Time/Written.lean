import LoginGate.Text.Blank
import LoginGate.Time.Duration

/-!
# Durations in words

`Duration.written` writes a duration as amounts of units from years down to nanoseconds, `1h 1m 1s`.
`Duration.ofWritten?` reads any sequence of amounts and adds them up.  An amount may have a decimal
fraction; what it stands for has to be a whole number of seconds or nanoseconds.
-/

namespace LoginGate

open LoginGate.Text LoginGate.Number

/-- What an amount of a unit is counted in. -/
inductive Grain where
  | seconds
  | nanoseconds
  deriving DecidableEq, Repr

/-- A unit of time: its names, what one of it is, and what a fraction of it is counted in, if there
may be a fraction. -/
structure TimeUnit where
  names : List String
  size : Nat
  grain : Grain
  fraction : Option (Nat × Grain)
  deriving Repr

/-- The seconds in a month, a twelfth of a year or nearly so. -/
def secondsPerMonth : Nat := 2630016

/-- The seconds in a year of 365 and a quarter days. -/
def secondsPerYear : Nat := 31557600

namespace TimeUnit

def ofSeconds (names : List String) (size : Nat) : TimeUnit :=
  ⟨names, size, .seconds, some (size, .seconds)⟩

def all : List TimeUnit := [
  ⟨["nanos", "nsec", "ns"], 1, .nanoseconds, none⟩,
  ⟨["usec", "us", "µs"], 1000, .nanoseconds, some (1000, .nanoseconds)⟩,
  ⟨["millis", "msec", "ms"], 1000000, .nanoseconds, some (1000000, .nanoseconds)⟩,
  ⟨["seconds", "second", "secs", "sec", "s"], 1, .seconds,
    some (nanosecondsPerSecond, .nanoseconds)⟩,
  ⟨["minutes", "minute", "min", "mins", "m"], 60, .seconds,
    some (60 * nanosecondsPerSecond, .nanoseconds)⟩,
  .ofSeconds ["hours", "hour", "hrs", "hr", "h"] 3600,
  .ofSeconds ["days", "day", "d"] 86400,
  .ofSeconds ["weeks", "week", "wks", "wk", "w"] (7 * 86400),
  .ofSeconds ["months", "month", "M"] secondsPerMonth,
  .ofSeconds ["years", "year", "yrs", "yr", "y"] secondsPerYear]

def ofName? (name : String) : Option TimeUnit := all.find? fun u => u.names.contains name

end TimeUnit

namespace Duration

def amountLimit : Nat := twoTo 64

/-- An amount, unless it is too large. -/
def bounded (n : Nat) : Option Nat := if n < amountLimit then some n else none

/-- The duration and so many seconds or nanoseconds. -/
def plus? (d : Duration) (amount : Nat) (grain : Grain) : Option Duration := do
  let amount ← bounded amount
  let (seconds, nanoseconds) ← match grain with
    | .seconds => some (d.seconds + amount, d.nanoseconds)
    | .nanoseconds => do some (d.seconds, ← bounded (d.nanoseconds + amount))
  let sum := ofParts seconds nanoseconds
  if sum.seconds < amountLimit then some sum else none

/-- The duration and an amount of a unit; the digits after the point are given apart. -/
def plusAmount? (d : Duration) (u : TimeUnit) (whole : Nat) (fraction : Option (List Char)) :
    Option Duration := do
  let d ← d.plus? (← bounded (whole * u.size)) u.grain
  match fraction with
  | none => some d
  | some digits => do
    let (size, grain) ← u.fraction
    let numerator ← decimalValue? digits
    let denominator ← bounded (tenTo digits.length)
    let share ← bounded (numerator * size)
    if share % denominator = 0 then d.plus? (share / denominator) grain else none

def isUnitChar (c : Char) : Bool := c.isAlpha || c = 'µ'

/-- The digits at the start of a text, blank characters among them left out, and what follows. -/
def spacedDigits (s : List Char) : List Char × List Char :=
  let inside := fun c => isDigit c || isBlank c
  ((s.takeWhile inside).filter isDigit, s.dropWhile inside)

/-- Adds the amounts of a text.  `fuel` is greater than the number of characters. -/
def addWritten? : Nat → Duration → List Char → Option Duration
  | 0, _, _ => none
  | fuel + 1, d, s =>
    match s.dropWhile isBlank with
    | [] => some d
    | c :: rest =>
      if !isDigit c then none
      else do
        let (digits, rest) := spacedDigits (c :: rest)
        let whole ← bounded (← decimalValue? digits)
        let (fraction, rest) := match rest with
          | '.' :: rest => (some (spacedDigits rest).1, (spacedDigits rest).2)
          | rest => (none, rest)
        let u ← TimeUnit.ofName? (String.ofList (rest.takeWhile isUnitChar))
        addWritten? fuel (← d.plusAmount? u whole fraction) (rest.dropWhile isUnitChar)

def ofWritten? (s : String) : Option Duration :=
  if s = "0" then some (ofSeconds 0)
  else if s.toList.all isBlank then none
  else addWritten? (s.toList.length + 1) (ofSeconds 0) s.toList

/-- An amount, unless it is zero. -/
def amountText (amount : Nat) (name : String) : List String :=
  if amount = 0 then [] else [amount.repr ++ name]

/-- An amount of a unit that has a plural, unless it is zero. -/
def countText (amount : Nat) (name : String) : List String :=
  amountText amount (if amount = 1 then name else name ++ "s")

/-- The duration in words. -/
def written (d : Duration) : String :=
  if d.isZero then "0s"
  else
    let inYear := d.seconds % secondsPerYear
    let inMonth := inYear % secondsPerMonth
    let inDay := inMonth % 86400
    " ".intercalate
      (countText (d.seconds / secondsPerYear) "year" ++
        countText (inYear / secondsPerMonth) "month" ++ countText (inMonth / 86400) "day" ++
        amountText (inDay / 3600) "h" ++ amountText (inDay % 3600 / 60) "m" ++
        amountText (inDay % 60) "s" ++ amountText (d.nanoseconds / 1000000) "ms" ++
        amountText (d.nanoseconds / 1000 % 1000) "us" ++ amountText (d.nanoseconds % 1000) "ns")

end Duration

end LoginGate
