import LoginGate.Text.Pieces

/-!
# Labels in ASCII

A label with other characters than ASCII ones is written as its ASCII characters, a hyphen, and the
places and code points of the others as numbers to the base 36.  The weight of a digit adapts to the
numbers before it.
-/

namespace LoginGate.Url.Punycode

open LoginGate.Text

/-- The digit of a value below 36. -/
def digit (n : Nat) : Char := if n < 26 then Char.ofNat (97 + n) else Char.ofNat (22 + n)

/-- The value of a digit, letters in either case. -/
def value? (c : Char) : Option Nat :=
  let n := c.toNat
  if 97 ≤ n ∧ n ≤ 122 then some (n - 97)
  else if 65 ≤ n ∧ n ≤ 90 then some (n - 65)
  else if 48 ≤ n ∧ n ≤ 57 then some (n - 22)
  else none

/-- A digit below the threshold of its place ends a number. -/
def threshold (place bias : Nat) : Nat :=
  if place ≤ bias then 1 else if bias + 26 ≤ place then 26 else place - bias

/-- A number divided by 35 until it is at most 455, and 36 for each division. -/
def scaleDown (n total : Nat) : Nat × Nat :=
  if 455 < n then scaleDown (n / 35) (total + 36) else (n, total)
termination_by n
decreasing_by omega

/-- The bias after a number. -/
def adapt (delta count : Nat) (first : Bool) : Nat :=
  let scaled := if first then delta / 700 else delta / 2
  let (n, total) := scaleDown (scaled + scaled / count) 0
  total + 36 * n / (n + 38)

/-! ## Writing -/

/-- The digits of a number. -/
def digits (bias place n : Nat) : List Char :=
  let t := threshold place bias
  if n < t then [digit n]
  else digit (t + (n - t) % (36 - t)) :: digits bias (place + 36) ((n - t) / (36 - t))
termination_by n
decreasing_by
  have h : 1 ≤ threshold place bias := by unfold threshold; split <;> (try split) <;> omega
  have h' : threshold place bias ≤ 26 := by unfold threshold; split <;> (try split) <;> omega
  exact Nat.lt_of_le_of_lt (Nat.div_le_self _ _) (by omega)

/-- The state of writing: the number that is due, the bias, how many characters are written, and
what was written, reversed. -/
structure Writing where
  delta : Nat := 0
  bias : Nat := 72
  written : Nat
  basic : Nat
  output : List Char

/-- One character of the label, while the characters with code point `n` are written. -/
def Writing.step (n : Nat) (w : Writing) (c : Char) : Writing :=
  if c.toNat < n then { w with delta := w.delta + 1 }
  else if c.toNat = n then
    { w with
      delta := 0
      bias := adapt w.delta (w.written + 1) (w.written == w.basic)
      written := w.written + 1
      output := (digits w.bias 36 w.delta).reverse ++ w.output }
  else w

/-- All characters with the next code point; the one before is given with the state. -/
def Writing.pass (label : List Char) (state : Nat × Writing) (n : Nat) : Nat × Writing :=
  let (from_, w) := state
  let w := label.foldl (Writing.step n) { w with delta := w.delta + (n - from_) * (w.written + 1) }
  (n + 1, { w with delta := w.delta + 1 })

/-- The written form of a label. -/
def encode (label : List Char) : List Char :=
  let basic := label.filter fun c => c.toNat < 128
  let others := ((label.map Char.toNat).filter (128 ≤ ·)).mergeSort.eraseDups
  let lead := if basic.isEmpty then [] else basic ++ ['-']
  let start : Writing := { written := basic.length, basic := basic.length, output := lead.reverse }
  (others.foldl (Writing.pass label) (128, start)).2.output.reverse

/-! ## Reading -/

/-- The state of reading: what was read, the code point and the place of the last character, the
bias, and the value, weight and place of the number that is being read. -/
structure Reading where
  output : List Char
  codePoint : Nat := 128
  position : Nat := 0
  bias : Nat := 72
  index : Nat := 0
  weight : Nat := 1
  place : Nat := 36

/-- A number is complete: one character is put in. -/
def Reading.finish? (r : Reading) (index : Nat) : Option Reading :=
  let count := r.output.length + 1
  let n := r.codePoint + index / count
  let position := index % count
  if n < 0xD800 ∨ (0xDFFF < n ∧ n ≤ 0x10FFFF) then
    some {
      output := r.output.take position ++ Char.ofNat n :: r.output.drop position
      codePoint := n
      position := position + 1
      bias := adapt (index - r.position) count (r.position == 0)
      index := position + 1 }
  else none

/-- One digit. -/
def Reading.step? (r : Reading) (c : Char) : Option Reading := do
  let d ← value? c
  let index := r.index + d * r.weight
  let t := threshold r.place r.bias
  if d < t then r.finish? index
  else some { r with index := index, weight := r.weight * (36 - t), place := r.place + 36 }

/-- The label of a written form. -/
def decode? (s : List Char) : Option (List Char) := do
  let (basic, tail) := match cutLast? '-' s with
    | some (b :: basic, tail) => (b :: basic, tail)
    | _ => ([], s)
  if basic.all fun c => c.toNat < 128 then
    let r ← tail.foldlM Reading.step? { output := basic }
    if r.place = 36 then some r.output else none
  else none

end LoginGate.Url.Punycode
