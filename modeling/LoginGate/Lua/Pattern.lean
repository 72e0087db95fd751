/-!
# Lua patterns

A pattern is a list of sets of bytes with how often each may match, possibly bound to the start or
the end of the subject.  `Pattern.ofBytes?` reads the text of a pattern, and `Pattern.match?` makes
the search of `string.match`: from the leftmost place on, and at each repetition the longest run
first, or the shortest one behind a `-`.  Captures, balanced pairs and frontiers are not read.

Bytes are given by their numbers: `$` 36, `%` 37, `*` 42, `+` 43, `-` 45, `.` 46, `?` 63, `[` 91,
`]` 93, `^` 94.
-/

namespace LoginGate.Lua

/-! ## Sets of bytes -/

inductive ByteSet where
  | any
  | byte (b : UInt8)
  | range (low high : UInt8)
  | letters
  | controls
  | digits
  | lower
  | punctuation
  | spaces
  | upper
  | alphanumeric
  | hexadecimal
  | empty
  | either (one other : ByteSet)
  | not (set : ByteSet)
  deriving Repr, Inhabited

namespace ByteSet

def isUpper (b : UInt8) : Bool := 65 ≤ b && b ≤ 90

def isLower (b : UInt8) : Bool := 97 ≤ b && b ≤ 122

def isDigit (b : UInt8) : Bool := 48 ≤ b && b ≤ 57

def contains (set : ByteSet) (b : UInt8) : Bool :=
  match set with
  | any => true
  | byte c => b == c
  | range low high => low ≤ b && b ≤ high
  | letters => isUpper b || isLower b
  | controls => b < 32 || b == 127
  | digits => isDigit b
  | lower => isLower b
  | punctuation => 33 ≤ b && b ≤ 126 && !(isUpper b || isLower b || isDigit b)
  | spaces => b == 32 || (9 ≤ b && b ≤ 13)
  | upper => isUpper b
  | alphanumeric => isUpper b || isLower b || isDigit b
  | hexadecimal => isDigit b || (65 ≤ b && b ≤ 70) || (97 ≤ b && b ≤ 102)
  | empty => false
  | either one other => one.contains b || other.contains b
  | not s => !s.contains b

/-- The set of a small letter behind a percent sign. -/
def ofLetter? (letter : UInt8) : Option ByteSet :=
  if letter = 97 then some letters
  else if letter = 99 then some controls
  else if letter = 100 then some digits
  else if letter = 108 then some lower
  else if letter = 112 then some punctuation
  else if letter = 115 then some spaces
  else if letter = 117 then some upper
  else if letter = 119 then some alphanumeric
  else if letter = 120 then some hexadecimal
  else if letter = 122 then some (byte 0)
  else none

/-- The set of the byte behind a percent sign: a class, for a capital letter its complement, or the
byte alone. -/
def escaped (b : UInt8) : ByteSet :=
  match ofLetter? b with
  | some set => set
  | none =>
    if isUpper b then
      match ofLetter? (b + 32) with
      | some set => not set
      | none => byte b
    else byte b

/-- What stands between brackets, as a set, and what follows the closing bracket.  A bracket that
would close the set at once belongs to it.  A range up to a percent sign is not read. -/
def members? (first : Bool) : List UInt8 → Option (ByteSet × List UInt8)
  | [] => none
  | 37 :: b :: rest => (members? false rest).map fun (set, rest) => (either (escaped b) set, rest)
  | 37 :: [] => none
  | low :: 45 :: high :: rest =>
    if low = 93 ∧ !first then some (empty, 45 :: high :: rest)
    else if high = 93 then
      (members? false (45 :: high :: rest)).map fun (set, rest) => (either (byte low) set, rest)
    else if high = 37 then none
    else (members? false rest).map fun (set, rest) => (either (range low high) set, rest)
  | low :: rest =>
    if low = 93 ∧ !first then some (empty, rest)
    else (members? false rest).map fun (set, rest) => (either (byte low) set, rest)

/-- What follows an opening bracket, as a set, and what follows the set. -/
def bracketed? : List UInt8 → Option (ByteSet × List UInt8)
  | 94 :: rest => (members? true rest).map fun (set, rest) => (not set, rest)
  | rest => members? true rest

/-- Bytes that begin a part of a pattern that is not read: parentheses. -/
def isCapture (b : UInt8) : Bool := b == 40 || b == 41

/-- Bytes that make such a part behind a percent sign: `b`, `f` and the digits. -/
def isSpecial (b : UInt8) : Bool := b == 98 || b == 102 || isDigit b

/-- The set at the start of a pattern, and what follows. -/
def read? : List UInt8 → Option (ByteSet × List UInt8)
  | [] => none
  | 37 :: b :: rest => if isSpecial b then none else some (escaped b, rest)
  | 37 :: [] => none
  | 91 :: rest => bracketed? rest
  | 46 :: rest => some (any, rest)
  | b :: rest => if isCapture b then none else some (byte b, rest)

end ByteSet

/-! ## Patterns -/

inductive Times where
  | once
  | optionally
  /-- Any number of times, as often as possible. -/
  | greedily
  /-- Any number of times, as seldom as possible. -/
  | lazily
  | atLeastOnce
  deriving DecidableEq, Repr

structure PatternItem where
  set : ByteSet
  times : Times
  deriving Repr

/-- A pattern; `atStart` and `atEnd` bind it to the ends of the subject. -/
structure Pattern where
  atStart : Bool
  items : List PatternItem
  atEnd : Bool
  deriving Repr

/-- How often a set is matched, by the byte that follows it, and what follows. -/
def Times.read : List UInt8 → Times × List UInt8
  | 63 :: rest => (.optionally, rest)
  | 42 :: rest => (.greedily, rest)
  | 45 :: rest => (.lazily, rest)
  | 43 :: rest => (.atLeastOnce, rest)
  | rest => (.once, rest)

namespace Pattern

/-- The items of a pattern, and whether it ends in a dollar sign of its own.  `fuel` is greater than
the number of bytes. -/
def items? : Nat → List UInt8 → Option (List PatternItem × Bool)
  | 0, _ => none
  | _, [] => some ([], false)
  | _, [36] => some ([], true)
  | fuel + 1, s => do
    let (set, rest) ← ByteSet.read? s
    let (times, rest) := Times.read rest
    let (items, atEnd) ← items? fuel rest
    return (⟨set, times⟩ :: items, atEnd)

/-- The pattern that bytes write. -/
def ofBytes? : List UInt8 → Option Pattern
  | 94 :: rest => (items? (rest.length + 1) rest).map fun (items, atEnd) => ⟨true, items, atEnd⟩
  | s => (items? (s.length + 1) s).map fun (items, atEnd) => ⟨false, items, atEnd⟩

/-! ## The search -/

/-- What `next` leaves of a subject after one byte of a set. -/
def afterOne (p : UInt8 → Bool) (next : List UInt8 → Option (List UInt8)) :
    List UInt8 → Option (List UInt8)
  | [] => none
  | b :: s => if p b then next s else none

/-- What `next` leaves after the longest run of bytes of a set with which it succeeds. -/
def afterLongest (p : UInt8 → Bool) (next : List UInt8 → Option (List UInt8)) :
    List UInt8 → Option (List UInt8)
  | [] => next []
  | b :: s => if p b then afterLongest p next s <|> next (b :: s) else next (b :: s)

/-- What `next` leaves after the shortest run of bytes of a set with which it succeeds. -/
def afterShortest (p : UInt8 → Bool) (next : List UInt8 → Option (List UInt8)) :
    List UInt8 → Option (List UInt8)
  | [] => next []
  | b :: s => next (b :: s) <|> if p b then afterShortest p next s else none

/-- What the items leave of a subject when they match its start, or all of it where they are bound
to its end. -/
def rest? (atEnd : Bool) : List PatternItem → List UInt8 → Option (List UInt8)
  | [], s => if atEnd && !s.isEmpty then none else some s
  | ⟨set, .once⟩ :: items, s => afterOne set.contains (rest? atEnd items) s
  | ⟨set, .optionally⟩ :: items, s =>
    afterOne set.contains (rest? atEnd items) s <|> rest? atEnd items s
  | ⟨set, .greedily⟩ :: items, s => afterLongest set.contains (rest? atEnd items) s
  | ⟨set, .lazily⟩ :: items, s => afterShortest set.contains (rest? atEnd items) s
  | ⟨set, .atLeastOnce⟩ :: items, s =>
    afterOne set.contains (afterLongest set.contains (rest? atEnd items)) s

/-- What the pattern matches at the start of a subject. -/
def matchHere? (p : Pattern) (s : List UInt8) : Option (List UInt8) :=
  (rest? p.atEnd p.items s).map fun rest => s.take (s.length - rest.length)

/-- What the pattern matches from the leftmost place of a subject where it matches. -/
def matchFrom? (p : Pattern) : List UInt8 → Option (List UInt8)
  | [] => p.matchHere? []
  | b :: s => p.matchHere? (b :: s) <|> p.matchFrom? s

/-- What the pattern matches in a subject; one that is bound to the start is tried there only. -/
def match? (p : Pattern) (s : List UInt8) : Option (List UInt8) :=
  if p.atStart then p.matchHere? s else p.matchFrom? s

end Pattern

/-- Does the pattern that some bytes write match in a subject?  A pattern that is refused matches
nothing. -/
def finds (pattern subject : List UInt8) : Bool :=
  match Pattern.ofBytes? pattern with
  | some p => (p.match? subject).isSome
  | none => false

end LoginGate.Lua
