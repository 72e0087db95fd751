import LoginGate.Yaml.Cursor

/-!
# Block scalars

A block scalar is indented text below a header.  A literal one keeps its line breaks, a folded one
joins lines that do not start with white characters.  The breaks at its end are stripped, kept, or
cut down to one.
-/

namespace LoginGate.Yaml

open LoginGate.Text

/-- What happens to the breaks at the end. -/
inductive Chomping where
  | strip
  | clip
  | keep
  deriving DecidableEq, Repr

structure BlockHeader where
  chomping : Chomping := .clip
  /-- The indentation beyond that of the surrounding block, where it is told. -/
  increment : Option Nat := none

def chomping? (x : Char) : Option Chomping :=
  if x = '+' then some .keep else if x = '-' then some .strip else none

/-- The digits 1 to 9 tell an indentation. -/
def increment? (x : Char) : Option Nat :=
  if isDigit x && x ≠ '0' then some (x.toNat - 48) else none

/-- The header behind the first mark, and how many characters it has. -/
def blockHeader? : List Char → Option (BlockHeader × Nat)
  | x :: rest =>
    match chomping? x with
    | some chomping =>
      match rest with
      | y :: _ =>
        if isDigit y then (increment? y).map fun n => (⟨chomping, some n⟩, 2)
        else some (⟨chomping, none⟩, 1)
      | [] => some (⟨chomping, none⟩, 1)
    | none =>
      if isDigit x then do
        let n ← increment? x
        match rest.head?.bind chomping? with
        | some chomping => some (⟨chomping, some n⟩, 2)
        | none => some (⟨.clip, some n⟩, 1)
      else some ({}, 0)
  | [] => some ({}, 0)

/-- Behind the spaces of an indentation: all of them where it is not known yet. -/
def skipIndentation (indent : Option Nat) (c : Cursor) : Cursor :=
  let spaces := c.rest.takeWhile (· == ' ')
  match indent with
  | none => c.skip spaces.length
  | some n => c.skip (min spaces.length (n - c.column))

/-- Empty lines, the greatest column that was reached, and what is behind the spaces of the first
line that is not empty.  A tab in the indentation is a fault. -/
def blockBreaks? (indent : Option Nat) :
    Nat → List Char → Nat → Cursor → Option (List Char × Nat × Cursor)
  | 0, _, _, _ => none
  | fuel + 1, breaks, most, c =>
    let c := skipIndentation indent c
    let most := max most c.column
    if c.startsWith '\t' && (indent.all fun n => c.column < n) then none
    else if c.sees isBreak then
      let (text, behind) := c.takeBreak
      blockBreaks? indent fuel (breaks ++ text) most behind
    else some (breaks, most, c)

/-- Empty lines at the cursor. -/
def Cursor.blockBreaks? (c : Cursor) (indent : Option Nat) : Option (List Char × Nat × Cursor) :=
  Yaml.blockBreaks? indent (c.rest.length + 1) [] 0 c

/-- The text of a block so far, reversed, and the breaks behind it. -/
structure BlockText where
  read : List Char := []
  lastBreak : List Char := []
  emptyLines : List Char := []
  /-- Does the last line start with a white character? -/
  indented : Bool := false

def BlockText.addLine (literal : Bool) (t : BlockText) (line lineBreak : List Char) : BlockText :=
  let indented := line.head?.any isWhite
  let joint :=
    if !literal && t.lastBreak = ['\n'] && !t.indented && !indented then
      (if t.emptyLines.isEmpty then [' '] else []) ++ t.emptyLines
    else t.lastBreak ++ t.emptyLines
  { read := line.reverse ++ joint.reverse ++ t.read
    lastBreak := lineBreak
    emptyLines := []
    indented := indented }

/-- The text with as much of the breaks at its end as is kept. -/
def BlockText.finish (t : BlockText) (chomping : Chomping) : List Char :=
  t.read.reverse ++ match chomping with
    | .strip => []
    | .clip => t.lastBreak
    | .keep => t.lastBreak ++ t.emptyLines

/-- The lines of a block that is indented by `indent`. -/
def blockLines? (literal : Bool) (indent : Nat) :
    Nat → BlockText → Cursor → Option (BlockText × Cursor)
  | 0, _, _ => none
  | fuel + 1, t, c =>
    if c.column = indent && !c.atEnd then do
      let (line, c) := c.span (!isBreak ·)
      let (lineBreak, c) := c.takeBreak
      let t := t.addLine literal line lineBreak
      let (breaks, _, c) ← c.blockBreaks? (some indent)
      blockLines? literal indent fuel { t with emptyLines := breaks } c
    else some (t, c)

/-- The block scalar at the cursor, which stands on its mark; `parent` is the indentation of the
surrounding block, if there is one. -/
def Cursor.blockScalar? (c : Cursor) (literal : Bool) (parent : Option Nat) :
    Option (List Char × Cursor) := do
  let (header, width) ← blockHeader? (c.rest.drop 1)
  let c ← (c.skip (1 + width)).skipLineEnd?
  let told := header.increment.map fun n => parent.getD 0 + n
  let (breaks, most, c) ← c.blockBreaks? told
  let least := match parent with | some n => n + 1 | none => 1
  let indent := told.getD (max (max most least) 1)
  let (t, c) ← blockLines? literal indent (c.rest.length + 1) { emptyLines := breaks } c
  some (t.finish header.chomping, c)

end LoginGate.Yaml
