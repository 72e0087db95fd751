import LoginGate.Text.Numeral
import LoginGate.Text.Pieces

/-!
# Tables of characters

A property of characters is written as a text of hexadecimal code points and ranges, `9-D 20 85`,
in ascending order.  `contains` looks a character up by halving.

A map is written as a text of items `41-5A:61`: a code point or a range, and one or more values, all
hexadecimal and in ascending order of the ranges.  `find?` looks a character up by halving.
-/

namespace LoginGate.Text

/-! ## Sets -/

/-- Ranges of code points, both ends included, in ascending order. -/
structure RangeTable where
  ranges : Array (Nat × Nat)
  deriving Inhabited

namespace RangeTable

/-- The range that one item of a table's text writes. -/
def item? (s : List Char) : Option (Nat × Nat) :=
  match pieces '-' s with
  | [a] => (numeral? 16 a).map fun n => (n, n)
  | [a, b] => do some (← numeral? 16 a, ← numeral? 16 b)
  | _ => none

def ofLines (lines : List String) : RangeTable :=
  ⟨(lines.flatMap fun line => (pieces ' ' line.toList).filterMap item?).toArray⟩

/-- Does a range in the half-open part `lo ..< hi` of the table hold `n`? -/
def search (ranges : Array (Nat × Nat)) (n lo hi : Nat) : Bool :=
  if lo < hi then
    let mid := (lo + hi) / 2
    match ranges[mid]? with
    | none => false
    | some (a, b) =>
      if n < a then search ranges n lo mid
      else if b < n then search ranges n (mid + 1) hi
      else true
  else false
termination_by hi - lo

def contains (t : RangeTable) (c : Char) : Bool := search t.ranges c.toNat 0 t.ranges.size

end RangeTable

/-! ## Maps -/

/-- A range of code points, both ends included, and its values. -/
structure RangeMap.Entry where
  low : Nat
  high : Nat
  values : List Nat
  deriving Repr, Inhabited

/-- Ranges with values, in ascending order. -/
structure RangeMap where
  entries : Array RangeMap.Entry
  deriving Inhabited

namespace RangeMap

/-- The entry that one item of a map's text writes. -/
def item? (s : List Char) : Option Entry :=
  match pieces ':' s with
  | [range, values] => do
    let values ← (pieces '.' values).mapM (numeral? 16)
    match pieces '-' range with
    | [a] => do
      let n ← numeral? 16 a
      some ⟨n, n, values⟩
    | [a, b] => do some ⟨← numeral? 16 a, ← numeral? 16 b, values⟩
    | _ => none
  | _ => none

def ofLines (lines : List String) : RangeMap :=
  ⟨(lines.flatMap fun line => (pieces ' ' line.toList).filterMap item?).toArray⟩

/-- The entry for `n` in the half-open part `lo ..< hi` of the map. -/
def search (entries : Array Entry) (n lo hi : Nat) : Option Entry :=
  if lo < hi then
    let mid := (lo + hi) / 2
    match entries[mid]? with
    | none => none
    | some e =>
      if n < e.low then search entries n lo mid
      else if e.high < n then search entries n (mid + 1) hi
      else some e
  else none
termination_by hi - lo

def find? (m : RangeMap) (c : Char) : Option Entry := search m.entries c.toNat 0 m.entries.size

end RangeMap

end LoginGate.Text
