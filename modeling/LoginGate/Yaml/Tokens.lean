import LoginGate.Yaml.BlockScalar
import LoginGate.Yaml.PlainScalar
import LoginGate.Yaml.Property
import LoginGate.Yaml.QuotedScalar

/-!
# The tokens of a text

Blocks have no closing marks of their own, so the indentation of a line opens and closes them; and a
key without a mark is found out only by the colon behind it, so its tokens are put in afterwards,
at the place that was noted when the key began.

    Scan.step?   one more token, or a fault
    tokens       all tokens up to the end of the text, or up to a fault

At a fault, tokens from a key on that may still turn out to be one are held back.
-/

namespace LoginGate.Yaml

/-- A place where a key may have begun. -/
structure PendingKey where
  /-- The number of tokens in front of it. -/
  position : Nat
  line : Nat
  index : Nat
  column : Nat
  /-- Is nothing but a key possible here? -/
  required : Bool
  deriving Repr, Inhabited

/-- The state between two tokens. -/
structure Scan where
  cursor : Cursor
  tokens : Array Token := #[.streamStart]
  /-- The columns of the open blocks, innermost first. -/
  indents : List Nat := []
  /-- May a key begin here? -/
  keyAllowed : Bool := true
  /-- For each open bracket, innermost first, and last for the text outside: the place where a key
  may have begun. -/
  keys : List (Option PendingKey) := [none]
  /-- The number of tokens that cannot be preceded by another one any more. -/
  settled : Nat := 0
  finished : Bool := false
  deriving Inhabited

namespace Scan

def inFlow (s : Scan) : Bool := 1 < s.keys.length

/-- The column of the innermost block. -/
def indent? (s : Scan) : Option Nat := s.indents.head?

def push (s : Scan) (t : Token) : Scan := { s with tokens := s.tokens.push t }

/-- A token in front of the token number `position`. -/
def insert (s : Scan) (position : Nat) (t : Token) : Scan :=
  { s with tokens := s.tokens.insertIdxIfInBounds position t }

/-! ## Keys -/

/-- A key stands on one line, and within 1024 characters. -/
def stillPossible (c : Cursor) (k : PendingKey) : Bool :=
  k.line == c.line && c.index ≤ k.index + 1024

/-- Keys that are not possible any more are given up; one that was required is a fault. -/
def dropStaleKeys? (s : Scan) : Option Scan :=
  if s.keys.any fun k => k.any fun k => !stillPossible s.cursor k && k.required then none
  else some { s with keys := s.keys.map fun k => k.filter (stillPossible s.cursor) }

/-- The tokens in front of the first possible key are settled. -/
def settle? (s : Scan) : Option Scan := do
  let s ← s.dropStaleKeys?
  let positions := s.keys.filterMap fun k => k.map PendingKey.position
  some { s with settled := positions.foldl min s.tokens.size }

/-- The innermost place is given up; a required key is a fault. -/
def dropKey? (s : Scan) : Option Scan :=
  match s.keys with
  | some k :: keys => if k.required then none else some { s with keys := none :: keys }
  | _ => some s

/-- A key may begin at the cursor. -/
def noteKey? (s : Scan) : Option Scan :=
  if s.keyAllowed then do
    let s ← s.dropKey?
    let key : PendingKey :=
      { position := s.tokens.size, line := s.cursor.line, index := s.cursor.index
        column := s.cursor.column, required := !s.inFlow && s.indent? == some s.cursor.column }
    some { s with keys := some key :: s.keys.drop 1 }
  else some s

/-! ## Blocks -/

/-- Is `column` to the right of the innermost block? -/
def isDeeper (s : Scan) (column : Nat) : Bool := s.indent?.all fun n => n < column

/-- A block opens in `column`, if that is to the right of the innermost one. -/
def openBlock (s : Scan) (column : Nat) (position : Nat) (t : Token) : Scan :=
  if s.inFlow || !s.isDeeper column then s
  else { s.insert position t with indents := column :: s.indents }

/-- The blocks to the right of a column are closed. -/
def closeFrom (keep : Nat → Bool) : List Nat → Array Token → List Nat × Array Token
  | [], tokens => ([], tokens)
  | n :: rest, tokens =>
    if keep n then (n :: rest, tokens) else closeFrom keep rest (tokens.push .blockEnd)

def closeBlocks (s : Scan) (column : Nat) : Scan :=
  if s.inFlow then s
  else
    let (indents, tokens) := closeFrom (· ≤ column) s.indents s.tokens
    { s with indents := indents, tokens := tokens }

def closeAllBlocks (s : Scan) : Scan :=
  if s.inFlow then s
  else { s with indents := [], tokens := (closeFrom (fun _ => false) s.indents s.tokens).2 }

/-! ## Tokens -/

def moveTo (s : Scan) (c : Cursor) : Scan := { s with cursor := c }

/-- A token of `width` characters. -/
def mark (s : Scan) (width : Nat) (t : Token) : Scan :=
  (s.moveTo (s.cursor.skip width)).push t

/-- Keys may begin behind here, or not. -/
def allowKey (s : Scan) (allowed : Bool) : Scan := { s with keyAllowed := allowed }

/-- The end of the text. -/
def streamEnd? (s : Scan) : Option Scan := do
  let c := s.cursor
  let s := if c.column = 0 then s else s.moveTo { c with line := c.line + 1, column := 0 }
  let s ← s.closeAllBlocks.dropKey?
  some { (s.allowKey false).push .streamEnd with finished := true }

def directive? (s : Scan) : Option Scan := do
  let s ← s.closeAllBlocks.dropKey?
  let (t, c) ← s.cursor.directive?
  some (((s.allowKey false).moveTo c).push t)

def documentMark? (s : Scan) (t : Token) : Option Scan := do
  let s ← s.closeAllBlocks.dropKey?
  some ((s.allowKey false).mark 3 t)

def flowStart? (s : Scan) (t : Token) : Option Scan := do
  let s ← s.noteKey?
  some (({ s with keys := none :: s.keys }.allowKey true).mark 1 t)

def flowEnd? (s : Scan) (t : Token) : Option Scan := do
  let s ← s.dropKey?
  let s := if s.inFlow then { s with keys := s.keys.drop 1 } else s
  some ((s.allowKey false).mark 1 t)

def flowEntry? (s : Scan) : Option Scan := do
  let s ← s.dropKey?
  some ((s.allowKey true).mark 1 .flowEntry)

/-- Outside of brackets, a mark that needs a place where a key may begin; it opens a block. -/
def blockMark? (s : Scan) (t : Token) : Option Scan :=
  if s.inFlow then some s
  else if s.keyAllowed then some (s.openBlock s.cursor.column s.tokens.size t)
  else none

/-- The mark of an item. -/
def blockEntry? (s : Scan) : Option Scan := do
  let s ← s.blockMark? .blockListStart
  let s ← s.dropKey?
  some ((s.allowKey true).mark 1 .blockEntry)

/-- The mark of a key. -/
def key? (s : Scan) : Option Scan := do
  let s ← s.blockMark? .blockMapStart
  let s ← s.dropKey?
  some ((s.allowKey (!s.inFlow)).mark 1 .key)

/-- The mark of a value; what was noted as a possible key is one. -/
def value? (s : Scan) : Option Scan :=
  match s.keys with
  | some k :: keys =>
    let s := { s.insert k.position .key with keys := none :: keys }
    some (((s.openBlock k.column k.position .blockMapStart).allowKey false).mark 1 .value)
  | _ => do
    let s ← s.blockMark? .blockMapStart
    some ((s.allowKey (!s.inFlow)).mark 1 .value)

/-- A token that may begin a key, read by `read`. -/
def keyToken? (s : Scan) (read : Cursor → Option (Token × Cursor)) : Option Scan := do
  let s ← s.noteKey?
  let (t, c) ← read s.cursor
  some (((s.allowKey false).moveTo c).push t)

def blockScalar? (s : Scan) (literal : Bool) : Option Scan := do
  let s ← s.dropKey?
  let (text, c) ← s.cursor.blockScalar? literal s.indent?
  some (((s.allowKey true).moveTo c).push (.scalar text .block))

def plainScalar? (s : Scan) : Option Scan := do
  let s ← s.noteKey?
  let least := match s.indent? with | some n => n + 1 | none => 0
  let p ← s.cursor.plainScalar? s.inFlow least
  some (((s.allowKey p.broken).moveTo p.behind).push (.scalar p.text .plain))

/-! ## Between tokens -/

/-- Behind white characters, comments and line breaks, and whether a line break was passed.  Tabs
count where no key may begin. -/
def skipGaps (flow : Bool) : Nat → Bool → Cursor → Bool × Cursor
  | 0, keyAllowed, c => (keyAllowed, c)
  | fuel + 1, keyAllowed, c =>
    let c := if c.column = 0 && c.sees isByteOrderMark then c.skip 1 else c
    let c := c.skipWhile fun x => x = ' ' || ((flow || !keyAllowed) && x = '\t')
    let c := c.skipComment
    if c.sees isBreak then skipGaps flow fuel (keyAllowed || !flow) c.takeBreak.2
    else (keyAllowed, c)

/-- The next token begins here. -/
def toNextToken? (s : Scan) : Option Scan := do
  let (keyAllowed, c) := skipGaps s.inFlow (s.cursor.rest.length + 1) s.keyAllowed s.cursor
  let s ← ((s.moveTo c).allowKey keyAllowed).dropStaleKeys?
  some (s.closeBlocks c.column)

/-- Can a plain scalar begin with `x` at the cursor? -/
def startsPlain (s : Scan) (x : Char) : Bool :=
  !(isGap x || isIndicator x) ||
  (x = '-' && !(s.cursor.skip 1).sees isWhite) ||
  (!s.inFlow && (x = '?' || x = ':') && !s.cursor.gapAt 1)

/-- The token that begins with `x` at the cursor. -/
def tokenAt? (s : Scan) (x : Char) : Option Scan :=
  let c := s.cursor
  if c.column = 0 && x = '%' then s.directive?
  else if c.atMarkLine '-' then s.documentMark? .documentStart
  else if c.atMarkLine '.' then s.documentMark? .documentEnd
  else if x = '[' then s.flowStart? .flowListStart
  else if x = '{' then s.flowStart? .flowMapStart
  else if x = ']' then s.flowEnd? .flowListEnd
  else if x = '}' then s.flowEnd? .flowMapEnd
  else if x = ',' then s.flowEntry?
  else if x = '-' && c.gapAt 1 then s.blockEntry?
  else if x = '?' && (s.inFlow || c.gapAt 1) then s.key?
  else if x = ':' && (s.inFlow || c.gapAt 1) then s.value?
  else if x = '*' then
    s.keyToken? fun c => c.anchorName?.map fun name => (.reference name.1, name.2)
  else if x = '&' then
    s.keyToken? fun c => c.anchorName?.map fun name => (.anchor name.1, name.2)
  else if x = '!' then s.keyToken? fun c => c.tag? s.inFlow
  else if x = '|' && !s.inFlow then s.blockScalar? true
  else if x = '>' && !s.inFlow then s.blockScalar? false
  else if x = '\'' then
    s.keyToken? fun c => (c.quotedScalar? .single).map fun q => (.scalar q.1 .quoted, q.2)
  else if x = '"' then
    s.keyToken? fun c => (c.quotedScalar? .double).map fun q => (.scalar q.1 .quoted, q.2)
  else if s.startsPlain x then s.plainScalar?
  else none

def step? (s : Scan) : Option Scan := do
  let s ← s.toNextToken?
  match s.cursor.head? with
  | none => s.streamEnd?
  | some x => s.tokenAt? x

/-- All tokens that can be told, up to a fault or the end. -/
def run : Nat → Scan → Scan
  | 0, s => s
  | fuel + 1, s =>
    match s.settle? with
    | none => s
    | some s =>
      if s.finished then s
      else match s.step? with
        | some next => run fuel next
        | none => s

end Scan

/-- Tokens, and whether they are all tokens of the text. -/
structure Tokens where
  tokens : List Token
  complete : Bool

/-- The tokens of a text; none if it has a character that is not permitted. -/
def tokens (text : List Char) : Tokens :=
  let text := match text with
    | x :: rest => if isByteOrderMark x then rest else text
    | [] => []
  if text.all isPermitted then
    let s := Scan.run (text.length + 2) { cursor := ⟨text, 0, 0, 0⟩ }
    ⟨s.tokens.toList.take s.settled, s.finished⟩
  else ⟨[], false⟩

end LoginGate.Yaml
