import LoginGate.Pattern.CharSet

/-!
# Patterns

A pattern says which stretches of a text it matches, and in which order it prefers them: of two
alternatives the first, of a greedy repetition the longer one.  A group may carry a name, so that
the stretch that it matched can be asked for.
-/

namespace LoginGate

open LoginGate.Text

inductive WordEdge where
  | anyEdge
  | noEdge
  | start
  | finish
  /-- No word character before. -/
  | startHalf
  /-- No word character after. -/
  | finishHalf
  deriving DecidableEq, Repr, Inhabited

/-- A condition on the two characters around a place. -/
inductive Boundary where
  | textStart
  | textEnd
  /-- Before the first character of a line; `anyBreak` counts carriage returns as line breaks. -/
  | lineStart (anyBreak : Bool)
  /-- After the last character of a line. -/
  | lineEnd (anyBreak : Bool)
  /-- A word is made of the word characters of Unicode, or of ASCII alone. -/
  | word (unicode : Bool) (edge : WordEdge)
  deriving DecidableEq, Repr, Inhabited

inductive Pattern where
  | empty
  | one (set : CharSet)
  | look (boundary : Boundary)
  | seq (a b : Pattern)
  | alt (a b : Pattern)
  | group (name : Option String) (a : Pattern)
  /-- Any number of copies. -/
  | loop (greedy : Bool) (a : Pattern)
  /-- Exactly as many copies. -/
  | copies (count : Nat) (a : Pattern)
  /-- At most as many copies. -/
  | atMost (count : Nat) (greedy : Bool) (a : Pattern)
  deriving DecidableEq, Repr, Inhabited

/-- Does the condition hold of a word that has a word character before and after? -/
def WordEdge.holds (edge : WordEdge) (before after : Bool) : Bool :=
  match edge with
  | anyEdge => before != after
  | noEdge => before == after
  | start => !before && after
  | finish => before && !after
  | startHalf => !before
  | finishHalf => !after

def Boundary.holds (boundary : Boundary) (before after : Option Char) : Bool :=
  match boundary with
  | textStart => before.isNone
  | textEnd => after.isNone
  | lineStart false => before.isNone || before == some '\n'
  | lineStart true =>
    before.isNone || before == some '\n' || (before == some '\r' && after != some '\n')
  | lineEnd false => after.isNone || after == some '\n'
  | lineEnd true =>
    after.isNone || after == some '\r' || (after == some '\n' && before != some '\r')
  | word unicode edge =>
    let isWord := fun c => if unicode then isWordChar c else CharSet.asciiWord.contains c
    edge.holds (before.any isWord) (after.any isWord)

namespace Pattern

/-- Several patterns one after the other. -/
def sequence : List Pattern → Pattern
  | [] => empty
  | [a] => a
  | a :: rest => seq a (sequence rest)

/-- The first of several patterns that matches. -/
def choice : List Pattern → Pattern
  | [] => one .empty
  | [a] => a
  | a :: rest => alt a (choice rest)

/-- Can the pattern match only the empty text? -/
def isWidthless : Pattern → Bool
  | empty => true
  | one _ => false
  | look _ => true
  | seq a b => a.isWidthless && b.isWidthless
  | alt a b => a.isWidthless && b.isWidthless
  | group _ a => a.isWidthless
  | loop _ a => a.isWidthless
  | copies count a => count == 0 || a.isWidthless
  | atMost count _ a => count == 0 || a.isWidthless

/-- Can the pattern match the empty text? -/
def isNullable : Pattern → Bool
  | empty => true
  | one _ => false
  | look _ => true
  | seq a b => a.isNullable && b.isNullable
  | alt a b => a.isNullable || b.isNullable
  | group _ a => a.isNullable
  | loop _ _ => true
  | copies count a => count == 0 || a.isNullable
  | atMost _ _ _ => true

/-- The pattern repeated, at least `low` times and, if there is a `high`, at most so many times.
More than one copy of what matches only the empty text is one copy.  The copies of what may match
the empty text come before the choice to stop, so that an empty copy can be the preferred one. -/
def repeated (a : Pattern) (low : Nat) (high : Option Nat) (greedy : Bool) : Pattern :=
  let (low, high) :=
    if a.isWidthless then (min low 1, some (min (high.getD 1) 1)) else (low, high)
  match low, high with
  | 0, some 0 => empty
  | 1, some 1 => a
  | low, some high => seq (copies low a) (atMost (high - low) greedy a)
  | 0, none =>
    if !a.isNullable then loop greedy a
    else if greedy then alt (seq a (loop greedy a)) empty
    else alt empty (seq a (loop greedy a))
  | low + 1, none => seq (copies low a) (seq a (loop greedy a))

def groupNames : Pattern → List String
  | empty => []
  | one _ => []
  | look _ => []
  | seq a b => a.groupNames ++ b.groupNames
  | alt a b => a.groupNames ++ b.groupNames
  | group name a => name.toList ++ a.groupNames
  | loop _ a => a.groupNames
  | copies _ a => a.groupNames
  | atMost _ _ a => a.groupNames

end Pattern

end LoginGate
