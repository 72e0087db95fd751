import LoginGate.Text.Blank
import LoginGate.Text.Composition
import LoginGate.Url.DomainMapping
import LoginGate.Url.DomainTables
import LoginGate.Url.Punycode

/-!
# Domain names

`toAscii?` brings a domain name into its one ASCII form: characters are mapped and composed, each
label between dots is checked, and a label with other characters than ASCII ones is written as
`xn--` and its Punycode.  A label that is given in that form is decoded and checked too.
-/

namespace LoginGate.Url

open LoginGate.Text

/-! ## Mapping -/

/-- What a character is mapped to; none if a domain name may not hold it. -/
def mapChar? (c : Char) : Option (List Char) :=
  if disallowed.contains c then none
  else if dropped.contains c then some []
  else match replaced.find? c with
    | some ⟨low, _, [target]⟩ => some [Char.ofNat (target + (c.toNat - low))]
    | some ⟨_, _, targets⟩ => some (targets.map Char.ofNat)
    | none => match alternating.find? c with
      | some ⟨low, _, [target]⟩ =>
        if (c.toNat - low) % 2 = 0 then some [Char.ofNat (target + (c.toNat - low))] else some [c]
      | _ => some [c]

def mapped? (name : List Char) : Option (List Char) :=
  (name.mapM mapChar?).map fun parts => composed parts.flatten

/-! ## Labels -/

def isAscii (s : List Char) : Bool := s.all fun c => c.toNat < 128

/-- The lead of a label in its encoded form. -/
def encodedLead : List Char := "xn--".toList

/-- The longest label in encoded form that is decoded, without its lead. -/
def decodeLimit : Nat := 2000

/-- The longest label that is encoded. -/
def encodeLimit : Nat := 1000

/-- The label that an encoded form stands for: one that needs it, and that mapping does not change.
-/
def decodeLabel? (encoded : List Char) : Option (List Char) := do
  if decodeLimit < encoded.length then none
  let label ← Punycode.decode? encoded
  if isAscii label || (← mapped? label) ≠ label || (dropPrefix? encodedLead label).isSome then none
  some label

/-- A label in the form in which it is checked. -/
def readLabel? (label : List Char) : Option (List Char) :=
  match dropPrefix? encodedLead label with
  | some encoded => decodeLabel? encoded
  | none => some label

def writeLabel? (label : List Char) : Option (List Char) :=
  if isAscii label then some label
  else if encodeLimit < label.length then none
  else some (encodedLead ++ Punycode.encode label)

/-! ## Joiners -/

/-- The class of the marks that join two letters. -/
def joiningMark : Nat := 9

/-- Does a letter that joins the next one come before, and one that joins the one before come
behind, with nothing but transparent characters in between?  `before` is reversed. -/
def standsBetweenJoined (before after : List Char) : Bool :=
  let first := (before.dropWhile transparent.contains).head?
  let next := (after.dropWhile transparent.contains).head?
  (first.any fun c => joinsLeft.contains c || joinsBoth.contains c) &&
  (next.any fun c => joinsRight.contains c || joinsBoth.contains c)

/-- Invisible joiners stand where they make a difference: behind a joining mark, or, for the one
that separates, between letters that would join. -/
def joinersFit (before : List Char) : List Char → Bool
  | [] => true
  | c :: rest =>
    (if c.toNat = 0x200C then
      before.head?.any (combiningClass · = joiningMark) || standsBetweenJoined before rest
    else if c.toNat = 0x200D then before.head?.any (combiningClass · = joiningMark)
    else true) && joinersFit (c :: before) rest

/-! ## Direction -/

/-- Has the character a direction that only names written from right to left have? -/
def turnsDirection (c : Char) : Bool := rightToLeft.contains c || arabicNumbers.contains c

/-- Has the character a direction of its own, from left to right? -/
def isLeftToRight (c : Char) : Bool :=
  !(turnsDirection c || europeanNumbers.contains c || spacelessMarks.contains c ||
    neutrals.contains c)

def lastBase? (label : List Char) : Option Char :=
  (label.reverse.dropWhile spacelessMarks.contains).head?

/-- A label from right to left holds no left-to-right letters and not both kinds of digits, and ends
in a letter or a digit. -/
def fitsRightToLeft (label : List Char) : Bool :=
  !label.any isLeftToRight &&
  !(label.any arabicNumbers.contains && label.any europeanNumbers.contains) &&
  (lastBase? label).any fun c => turnsDirection c || europeanNumbers.contains c

/-- A label from left to right starts with a letter, holds no right-to-left characters, and ends in
a letter or a digit. -/
def fitsLeftToRight (label : List Char) : Bool :=
  label.head?.any isLeftToRight && !label.any turnsDirection &&
  (lastBase? label).any fun c => isLeftToRight c || europeanNumbers.contains c

/-- Does a label keep to one direction? -/
def fitsDirection (label : List Char) : Bool :=
  match label with
  | [] => true
  | c :: _ => if rightToLeft.contains c then fitsRightToLeft label else fitsLeftToRight label

/-! ## Names -/

/-- Can the label stand in a name?  `mixed` says whether the name has right-to-left characters. -/
def isLabel (mixed : Bool) (label : List Char) : Bool :=
  isAscii label && !mixed ||
  (!label.head?.any marks.contains && joinersFit [] label && (!mixed || fitsDirection label))

def toAscii? (name : List Char) : Option (List Char) := do
  let labels ← (pieces '.' (← mapped? name)).mapM readLabel?
  let mixed := labels.any fun label => label.any turnsDirection
  if labels.all (isLabel mixed) then
    let written ← labels.mapM writeLabel?
    some (join ['.'] written)
  else none

end LoginGate.Url
