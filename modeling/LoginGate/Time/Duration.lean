import LoginGate.Number.Shortest

/-!
# Durations

A duration is a number of seconds and nanoseconds, the latter below one second.  `secondsText` is
the form that the proxy reads: the seconds as a decimal fraction, followed by `s`.
-/

namespace LoginGate

open LoginGate.Number LoginGate.Text

def nanosecondsPerSecond : Nat := 1000000000

/-- A span of time that is not negative. -/
structure Duration where
  seconds : Nat
  nanoseconds : Nat
  nanoseconds_lt : nanoseconds < nanosecondsPerSecond

namespace Duration

def ofSeconds (seconds : Nat) : Duration := ⟨seconds, 0, Nat.zero_lt_succ _⟩

instance : Inhabited Duration := ⟨ofSeconds 0⟩

instance : DecidableEq Duration := fun a b =>
  decidable_of_iff (a.seconds = b.seconds ∧ a.nanoseconds = b.nanoseconds) <| by
    cases a; cases b; simp

/-- The duration of so many seconds and nanoseconds, whole seconds carried over. -/
def ofParts (seconds nanoseconds : Nat) : Duration :=
  ⟨seconds + nanoseconds / nanosecondsPerSecond, nanoseconds % nanosecondsPerSecond,
    Nat.mod_lt _ (Nat.zero_lt_succ _)⟩

/-- The length in nanoseconds. -/
def total (d : Duration) : Nat := d.seconds * nanosecondsPerSecond + d.nanoseconds

def isZero (d : Duration) : Bool := d.seconds == 0 && d.nanoseconds == 0

/-- The seconds as a floating-point number: the quotient of the nanoseconds is rounded first, then
the sum. -/
def toBinary64? (d : Duration) : Option Binary64 := do
  let whole ← Binary64.ofNat? d.seconds
  let fraction ← Binary64.ofRatio false d.nanoseconds nanosecondsPerSecond
  whole.addMagnitudes fraction

/-- The seconds in the form that the proxy reads. -/
def secondsText (d : Duration) : String :=
  if d.nanoseconds = 0 then String.ofList (decimal d.seconds ++ ['s'])
  else match d.toBinary64? with
    | some x => String.ofList (x.plainText ++ ['s'])
    | none => String.ofList ("inf".toList ++ ['s'])

end Duration

end LoginGate
