import LoginGate.Yaml.Cursor

/-!
# Gaps inside scalars

White characters and line breaks between the words of a scalar are folded: one line feed becomes a
space, and of several the first is dropped.  Without a break the white characters stay.
-/

namespace LoginGate.Yaml

/-- What stands between two words. -/
structure Gap where
  /-- White characters before any break. -/
  white : List Char := []
  /-- Has a line break been passed? -/
  broken : Bool := false
  firstBreak : List Char := []
  laterBreaks : List Char := []
  deriving Repr, Inhabited

namespace Gap

def text (g : Gap) : List Char :=
  if !g.broken then g.white
  else if g.firstBreak = ['\n'] then (if g.laterBreaks.isEmpty then [' '] else g.laterBreaks)
  else g.firstBreak ++ g.laterBreaks

def addWhite (g : Gap) (x : Char) : Gap :=
  if g.broken then g else { g with white := g.white ++ [x] }

def addBreak (g : Gap) (text : List Char) : Gap :=
  if g.broken then { g with laterBreaks := g.laterBreaks ++ text }
  else { white := [], broken := true, firstBreak := text, laterBreaks := [] }

/-- The gap from the cursor on, added to `g`.  After a break, a tab in a column below `indent` is a
fault. -/
def extend? (indent : Nat) : Nat → Gap → Cursor → Option (Gap × Cursor)
  | 0, g, c => some (g, c)
  | fuel + 1, g, c =>
    match c.head? with
    | none => some (g, c)
    | some x =>
      if isWhite x then
        if g.broken && x = '\t' && c.column < indent then none
        else extend? indent fuel (g.addWhite x) (c.skip 1)
      else if isBreak x then
        let (text, behind) := c.takeBreak
        extend? indent fuel (g.addBreak text) behind
      else some (g, c)

end Gap

/-- The gap at the cursor. -/
def Cursor.takeGap? (c : Cursor) (indent : Nat) : Option (Gap × Cursor) :=
  Gap.extend? indent (c.rest.length + 1) {} c

end LoginGate.Yaml
