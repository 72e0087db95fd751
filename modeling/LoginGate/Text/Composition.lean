import LoginGate.Text.CompositionTables

/-!
# Composed form

`composed` is the canonical composed form of a text: composites are taken apart, marks put in the
order of their classes, and what can be joined to one character is joined.  Characters that have an
equivalent single character, or that no text in composed form holds, are left as they are: the
mapping of domain names replaces them before.
-/

namespace LoginGate.Text

def combiningClass (c : Char) : Nat :=
  match combiningClasses.find? c with
  | some ⟨_, _, [n]⟩ => n
  | _ => 0

/-! ## Syllables -/

/-- The first Hangul syllable; 19 leads, 21 vowels and 27 tails (or none) make one. -/
def firstSyllable : Nat := 0xAC00

/-- The parts of a Hangul syllable: a syllable without a tail and the tail, or a lead and a vowel.
-/
def splitSyllable? (n : Nat) : Option (Nat × Nat) :=
  if n < firstSyllable ∨ firstSyllable + 11172 ≤ n then none
  else
    let index := n - firstSyllable
    if index % 28 ≠ 0 then some (n - index % 28, 0x11A7 + index % 28)
    else some (0x1100 + index / 588, 0x1161 + index % 588 / 28)

/-- The syllable of two parts. -/
def joinSyllable? (a b : Nat) : Option Nat :=
  if 0x1100 ≤ a ∧ a < 0x1113 ∧ 0x1161 ≤ b ∧ b < 0x1176 then
    some (firstSyllable + ((a - 0x1100) * 21 + (b - 0x1161)) * 28)
  else if firstSyllable ≤ a ∧ a < firstSyllable + 11172 ∧ (a - firstSyllable) % 28 = 0 ∧
      0x11A7 < b ∧ b < 0x11C3 then
    some (a + (b - 0x11A7))
  else none

/-! ## Composites -/

/-- The two characters that a composite is made of. -/
def split? (c : Char) : Option (Char × Char) :=
  match composites.find? c with
  | some ⟨_, _, [a, b]⟩ => some (Char.ofNat a, Char.ofNat b)
  | _ => (splitSyllable? c.toNat).map fun parts => (Char.ofNat parts.1, Char.ofNat parts.2)

def join? (a b : Char) : Option Char :=
  match joinSyllable? a.toNat b.toNat with
  | some n => some (Char.ofNat n)
  | none =>
    (composites.entries.find? fun e => e.values == [a.toNat, b.toNat]).map fun e => Char.ofNat e.low

/-- A character taken apart; no composite is made of composites more than four deep. -/
def expand : Nat → Char → List Char
  | 0, c => [c]
  | fuel + 1, c => (split? c).elim [c] fun parts => expand fuel parts.1 ++ [parts.2]

/-- A character put in front of a reversed text, behind the marks of a higher class. -/
def insertMark (c : Char) : List Char → List Char
  | [] => [c]
  | d :: rest =>
    if combiningClass c ≠ 0 ∧ combiningClass c < combiningClass d then d :: insertMark c rest
    else c :: d :: rest

/-- Marks put in the order of their classes. -/
def orderMarks (s : List Char) : List Char :=
  (s.foldl (fun reversed c => insertMark c reversed) []).reverse

/-! ## Joining -/

/-- A text that is being joined: what is finished, the last character that takes marks, and the
marks behind it, the lists reversed. -/
structure Joining where
  finished : List Char := []
  base : Option Char := none
  marks : List Char := []

namespace Joining

/-- Everything is finished. -/
def flush (j : Joining) : List Char := j.marks ++ (j.base.toList ++ j.finished)

/-- Is a character of this class cut off from the base by the marks in between? -/
def isBlocked (j : Joining) (classOf : Nat) : Bool :=
  match j.marks with
  | [] => false
  | mark :: _ => classOf ≤ combiningClass mark

/-- A character that does not join. -/
def append (j : Joining) (c : Char) : Joining :=
  if combiningClass c = 0 then { finished := j.flush, base := some c, marks := [] }
  else if j.base.isNone then { j with finished := c :: j.finished }
  else { j with marks := c :: j.marks }

def add (j : Joining) (c : Char) : Joining :=
  match j.base with
  | some b =>
    if j.isBlocked (combiningClass c) then j.append c
    else match join? b c with
      | some composite => { j with base := some composite }
      | none => j.append c
  | none => j.append c

end Joining

def composed (s : List Char) : List Char :=
  ((orderMarks (s.flatMap (expand 4))).foldl Joining.add {}).flush.reverse

end LoginGate.Text
