import LoginGate.Pattern.CharSet

/-!
# Flags

Flags say how the rest of a group is read.  They are written as letters, `i`, `m`, `s`, `U`, `u`,
`R` and `x`; those after a `-` are cleared.  No letter is written twice.
-/

namespace LoginGate.Pattern

open LoginGate.Text

/-- How a part of a pattern is read. -/
structure Flags where
  /-- Case makes no difference. -/
  caseless : Bool := false
  /-- `^` and `$` match at every line. -/
  multiLine : Bool := false
  /-- `.` matches line breaks too. -/
  dotAll : Bool := false
  /-- Repetitions are lazy unless marked. -/
  lazyFirst : Bool := false
  /-- Classes are those of Unicode. -/
  unicode : Bool := true
  /-- A carriage return breaks a line. -/
  anyBreak : Bool := false
  /-- Blank characters and comments are skipped. -/
  verbose : Bool := false
  deriving DecidableEq, Repr, Inhabited

namespace Flags

/-- The flags with the flag of a letter set or cleared, if there is such a flag. -/
def set? (f : Flags) (letter : Char) (value : Bool) : Option Flags :=
  match letter with
  | 'i' => some { f with caseless := value }
  | 'm' => some { f with multiLine := value }
  | 's' => some { f with dotAll := value }
  | 'U' => some { f with lazyFirst := value }
  | 'u' => some { f with unicode := value }
  | 'R' => some { f with anyBreak := value }
  | 'x' => some { f with verbose := value }
  | _ => none

/-- The flags that the letters write, given the letters before. -/
def setAll? (f : Flags) (value : Bool) (seen : List Char) : List Char → Option Flags
  | [] => some f
  | ['-'] => none
  | letter :: rest =>
    if letter ∈ seen then none
    else if letter = '-' then setAll? f false (letter :: seen) rest
    else (f.set? letter value).bind fun f => setAll? f value (letter :: seen) rest

def withLetters? (f : Flags) (letters : List Char) : Option Flags := setAll? f true [] letters

/-- What follows blank characters and comments; a comment runs from `#` to the end of the line. -/
def skipBlank : Bool → List Char → List Char
  | _, [] => []
  | true, c :: rest => skipBlank (c != '\n') rest
  | false, c :: rest =>
    if isBlank c then skipBlank false rest
    else if c = '#' then skipBlank true rest
    else c :: rest

/-- What follows blank characters and comments, where the flags make them meaningless. -/
def skip (f : Flags) (s : List Char) : List Char := if f.verbose then skipBlank false s else s

/-- The character that follows the first one, blank characters and the sign of a comment left out
where the flags make them meaningless. -/
def second? (f : Flags) (s : List Char) : Option Char :=
  if f.verbose then
    match s.tail.dropWhile isBlank with
    | '#' :: rest => (rest.dropWhile isBlank).head?
    | rest => rest.head?
  else s.tail.head?

/-- The set of one character, as the flags say. -/
def single (f : Flags) (c : Char) : CharSet :=
  if !f.caseless then .single c
  else if f.unicode then .caseless (.single c)
  else if c.isAlpha then .asciiCaseless (.single c)
  else .single c

def fold (f : Flags) (set : CharSet) : CharSet :=
  if !f.caseless then set else if f.unicode then .caseless set else .asciiCaseless set

/-- A set or, if `negated`, the characters that are not in it.  Outside of Unicode no set reaches
beyond ASCII, so there is none that is negated. -/
def orNot (f : Flags) (negated : Bool) (set : CharSet) : Option CharSet :=
  if !negated then some set else if f.unicode then some (.complement set) else none

/-- The characters that `.` matches. -/
def dot (f : Flags) : Option CharSet :=
  if !f.unicode then none
  else if f.dotAll then some .all
  else if f.anyBreak then some (.complement (.union (.single '\r') (.single '\n')))
  else some (.complement (.single '\n'))

end Flags

end LoginGate.Pattern
