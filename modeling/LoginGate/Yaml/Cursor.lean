import LoginGate.Text.Numeral

/-!
# A place in a text

A cursor holds what is still to be read, and where that is: the index of its first character, its
line and its column.  Every move drops a prefix of the rest.
-/

namespace LoginGate.Yaml

open LoginGate.Text

/-! ## Characters -/

/-- The characters that a YAML text may hold. -/
def isPermitted (c : Char) : Bool :=
  let n := c.toNat
  n = 9 || n = 10 || n = 13 || (0x20 ≤ n && n ≤ 0x7E) || n = 0x85 || (0xA0 ≤ n && n ≤ 0xD7FF) ||
  (0xE000 ≤ n && n ≤ 0xFFFD) || 0x10000 ≤ n

def isByteOrderMark (c : Char) : Bool := c.toNat = 0xFEFF

def isBreak (c : Char) : Bool :=
  c = '\n' || c = '\r' || c.toNat = 0x85 || c.toNat = 0x2028 || c.toNat = 0x2029

def isWhite (c : Char) : Bool := c = ' ' || c = '\t'

def isGap (c : Char) : Bool := isWhite c || isBreak c

/-- The characters of anchors, tag handles and directive names. -/
def isWordChar (c : Char) : Bool :=
  let n := c.toNat
  (48 ≤ n && n ≤ 57) || (65 ≤ n && n ≤ 90) || (97 ≤ n && n ≤ 122) || c = '_' || c = '-'

/-- The characters that end a plain scalar between brackets. -/
def isFlowMark (c : Char) : Bool := c = ',' || c = '[' || c = ']' || c = '{' || c = '}'

/-- The characters that have a meaning at the start of a token. -/
def isIndicator (c : Char) : Bool :=
  "-?:,[]\x7b\x7d#&*!|>'\"%@`".toList.contains c

/-! ## Cursors -/

/-- What is still to be read, and where it is. -/
structure Cursor where
  rest : List Char
  index : Nat := 0
  line : Nat := 0
  column : Nat := 0
  deriving Repr, Inhabited

namespace Cursor

def atEnd (c : Cursor) : Bool := c.rest.isEmpty

def head? (c : Cursor) : Option Char := c.rest.head?

def startsWith (c : Cursor) (x : Char) : Bool := c.rest.head? == some x

/-- Has the next character the property? -/
def sees (c : Cursor) (p : Char → Bool) : Bool := c.rest.head?.any p

/-- Past `n` characters of one line. -/
def skip (c : Cursor) (n : Nat) : Cursor :=
  { rest := c.rest.drop n, index := c.index + n, line := c.line, column := c.column + n }

/-- The characters with the property, and what is behind them. -/
def span (c : Cursor) (p : Char → Bool) : List Char × Cursor :=
  let run := c.rest.takeWhile p
  (run, c.skip run.length)

/-- Behind the characters with the property. -/
def skipWhile (c : Cursor) (p : Char → Bool) : Cursor := (c.span p).2

/-- The line break that comes next, as it is kept in a text, and what is behind it. -/
def takeBreak (c : Cursor) : List Char × Cursor :=
  match c.rest with
  | '\r' :: '\n' :: rest => (['\n'], ⟨rest, c.index + 2, c.line + 1, 0⟩)
  | x :: rest =>
    if x.toNat = 0x2028 ∨ x.toNat = 0x2029 then ([x], ⟨rest, c.index + 1, c.line + 1, 0⟩)
    else if isBreak x then (['\n'], ⟨rest, c.index + 1, c.line + 1, 0⟩)
    else ([], c)
  | [] => ([], c)

/-- Does a gap, or the end, come after `n` characters? -/
def gapAt (c : Cursor) (n : Nat) : Bool :=
  match c.rest.drop n with
  | x :: _ => isGap x
  | [] => true

/-- Does a line break, or the end, come next? -/
def atLineEnd (c : Cursor) : Bool :=
  match c.rest with
  | x :: _ => isBreak x
  | [] => true

/-- Three equal characters at the start of a line, with a gap or the end behind them. -/
def atMarkLine (c : Cursor) (x : Char) : Bool :=
  c.column == 0 && c.rest.take 3 == [x, x, x] && c.gapAt 3

/-- A line that separates documents. -/
def atDocumentMark (c : Cursor) : Bool := c.atMarkLine '-' || c.atMarkLine '.'

/-- Behind a comment, if there is one. -/
def skipComment (c : Cursor) : Cursor := if c.startsWith '#' then c.skipWhile (!isBreak ·) else c

/-- Behind the white characters and the comment at the end of a line, and behind its break; none if
there is anything else. -/
def skipLineEnd? (c : Cursor) : Option Cursor :=
  let c := (c.skipWhile isWhite).skipComment
  if c.atLineEnd then some c.takeBreak.2 else none

end Cursor

end LoginGate.Yaml
