import LoginGate.Pattern.Basic
import LoginGate.Pattern.Bracket

/-!
# Patterns as text

`Pattern.ofText?` reads a pattern.  Characters stand for themselves, except `. ^ $ | ? * + ( ) [ {`
and the backslash.  `(?P<name>…)` and `(?<name>…)` are groups with a name, which no two groups
share; `(?flags)` and `(?flags:…)` change how the rest of the group, or the group itself, is read.
There is no looking ahead or behind.  Nothing but a whole pattern is read: every bracket is closed,
every repetition follows what it repeats, and neither nesting nor size exceeds its limit.

A pattern is refused when searching for it takes more memory than is allowed.  `weight` estimates
the memory: a step of the search takes `stepWeight` octets, a set more the more ranges it has, and a
repetition as much as all of its copies.
-/

namespace LoginGate.Pattern

open LoginGate.Text

/-! ## Size -/

/-- The octets of one step. -/
def stepWeight : Nat := 32

/-- The octets that a pattern may take. -/
def weightLimit : Nat := 10 * 1024 * 1024

def setWeight : CharSet → Nat
  | .empty => 0
  | .range _ high => if high.toNat < 128 then 8 else 96
  | .property (.categories names) => 64 * 60 * names.length
  | .property .blank => 640
  | .property .word => 64 * 770
  | .property .alphabetic => 64 * 730
  | .property .uppercase => 64 * 650
  | .property .lowercase => 64 * 650
  | .property .emoji => 64 * 150
  | .property (.script _) => 64 * 15
  | .union a b => setWeight a + setWeight b
  | .inter a b => max (setWeight a) (setWeight b)
  | .complement a => 400 + setWeight a
  | .caseless a => 2 * setWeight a
  | .asciiCaseless a => 2 * setWeight a

/-- The octets of the step that reads a character of a set. -/
def readWeight : CharSet → Nat
  | .range low high => if low = high then stepWeight * low.utf8Size else 2 * stepWeight + 8
  | set => 2 * stepWeight + setWeight set

def weight : Pattern → Nat
  | empty => 0
  | one set => readWeight set
  | look _ => stepWeight
  | seq a b => a.weight + b.weight
  | alt a b => stepWeight + 8 + a.weight + b.weight
  | group _ a => 2 * stepWeight + a.weight
  | loop _ a => stepWeight + 8 + a.weight
  | copies count a => count * a.weight
  | atMost count _ a => count * (stepWeight + 8 + a.weight)

/-! ## Parts -/

/-- How deep groups, repetitions, alternatives, sequences and brackets may be nested. -/
def depthLimit : Nat := 250

def countLimit : Nat := 4294967295

/-- A part of a sequence: a pattern with its depth, or a change of flags. -/
inductive Part where
  | flags
  | pattern (a : Pattern) (depth : Nat)
  deriving Repr

def deepest (depths : List Nat) : Nat := depths.foldl max 0

def Part.pattern? : Part → Option Pattern
  | flags => none
  | pattern a _ => some a

def Part.depth : Part → Nat
  | flags => 0
  | pattern _ depth => depth

/-- Several parts one after the other. -/
def sequenceParts (parts : List Part) : Pattern × Nat :=
  (sequence (parts.filterMap Part.pattern?),
    (if parts.length < 2 then 0 else 1) + deepest (parts.map Part.depth))

def chooseParts (choices : List (Pattern × Nat)) : Pattern × Nat :=
  (choice (choices.map Prod.fst),
    (if choices.length < 2 then 0 else 1) + deepest (choices.map Prod.snd))

/-! ## Groups -/

def isNameStart (c : Char) : Bool := c = '_' || isAlphabetic c

def isNameChar (c : Char) : Bool :=
  c ∈ ['_', '.', '[', ']'] || isAlphabetic c || isNumeric c

/-- The name of a group and what follows its closing angle bracket. -/
def groupName? (rest : List Char) : Option (String × List Char) :=
  let name := rest.takeWhile (· != '>')
  match name, rest.dropWhile (· != '>') with
  | c :: more, '>' :: rest =>
    if isNameStart c && more.all isNameChar then some (String.ofList name, rest) else none
  | _, _ => none

inductive GroupStart where
  | named (name : String)
  | plain
  | withFlags (f : Flags)
  /-- No group, but flags for the rest of the group around. -/
  | onlyFlags (f : Flags)

/-- What kind of group starts after an opening parenthesis. -/
def groupStart? (f : Flags) (rest : List Char) : Option (GroupStart × List Char) :=
  match f.skip rest with
  | '?' :: 'P' :: '<' :: rest => (groupName? rest).map fun (name, rest) => (.named name, rest)
  | '?' :: '<' :: rest =>
    if rest.head? = some '=' ∨ rest.head? = some '!' then none
    else (groupName? rest).map fun (name, rest) => (.named name, rest)
  | '?' :: rest =>
    let isLetter := fun (c : Char) => c != ':' && c != ')'
    let letters := rest.takeWhile isLetter
    match rest.dropWhile isLetter with
    | ':' :: rest => do some (.withFlags (← f.withLetters? letters), rest)
    | _ :: rest => do
      if letters.isEmpty then none else some (.onlyFlags (← f.withLetters? letters), rest)
    | [] => none
  | rest => some (.plain, rest)

/-! ## Repetitions -/

/-- The digits at the start of a text, and what follows. -/
def digits (f : Flags) : Nat → List Char → List Char × List Char
  | 0, rest => ([], rest)
  | fuel + 1, rest =>
    match rest with
    | c :: after =>
      if isDigit c then
        let (more, rest) := digits f fuel (f.skip after)
        (c :: more, rest)
      else ([], rest)
    | [] => ([], [])

/-- A number with blank characters around it; nothing where there are no digits. -/
def count? (f : Flags) (rest : List Char) : Option Nat × List Char :=
  let (text, rest) := digits f (rest.length + 1) (rest.dropWhile isBlank)
  (decimalValue? text, f.skip (rest.dropWhile isBlank))

/-- The least and the greatest number of copies, after an opening brace. -/
def counts? (f : Flags) (rest : List Char) : Option ((Nat × Option Nat) × List Char) := do
  let (low, rest) := count? f (f.skip rest)
  let low ← low.filter (· ≤ countLimit)
  match rest with
  | '\x7D' :: rest => some ((low, some low), rest)
  | ',' :: rest =>
    match f.skip rest with
    | '\x7D' :: rest => some ((low, none), rest)
    | rest =>
      let (high, rest) := count? f rest
      let high ← high.filter (· ≤ countLimit)
      match rest with
      | '\x7D' :: rest => if low ≤ high then some ((low, some high), rest) else none
      | _ => none
  | _ => none

/-- The number of copies that the text at the start asks for. -/
def repetition? (f : Flags) (rest : List Char) : Option ((Nat × Option Nat) × List Char) :=
  match rest with
  | '?' :: rest => some ((0, some 1), rest)
  | '*' :: rest => some ((0, none), rest)
  | '+' :: rest => some ((1, none), rest)
  | '\x7B' :: rest => (counts? f rest).map fun (counts, rest) => (counts, f.skip rest)
  | _ => none

/-- The last part repeated; there has to be one. -/
def repeatLast? (f : Flags) (low : Nat) (high : Option Nat) (marked : Bool) (parts : List Part) :
    Option (List Part) :=
  match parts with
  | .pattern a depth :: parts =>
    some (.pattern (a.repeated low high (marked == f.lazyFirst)) (depth + 1) :: parts)
  | _ => none

/-! ## Patterns -/

def Atom.pattern? (f : Flags) (a : Atom) : Option Pattern :=
  match a with
  | character c octet => if allowed f octet false c then some (one (f.single c)) else none
  | class_ set => some (one set)
  | boundary b => some (look b)

/-- The pattern of one character, an escape or a set in brackets, and what follows it. -/
def unit? (f : Flags) (rest : List Char) : Option (Part × List Char) :=
  match rest with
  | [] => none
  | '[' :: rest => do
    let (nested, rest) ← bracket? f rest
    some (.pattern (one nested.set) nested.depth, rest)
  | '\\' :: rest => do
    let (atom, rest) ← escape? f rest
    some (.pattern (← atom.pattern? f) 0, rest)
  | '.' :: rest => do some (.pattern (one (← f.dot)) 0, rest)
  | '^' :: rest =>
    some (.pattern (look (if f.multiLine then .lineStart f.anyBreak else .textStart)) 0, rest)
  | '$' :: rest =>
    some (.pattern (look (if f.multiLine then .lineEnd f.anyBreak else .textEnd)) 0, rest)
  | c :: rest => some (.pattern (one (f.single c)) 0, rest)

/-- What is read of a group: the names of groups so far, the alternatives before, and the parts of
the last alternative; the last one comes first. -/
structure OpenGroup where
  names : List String
  choices : List (Pattern × Nat) := []
  parts : List Part := []

def OpenGroup.add (g : OpenGroup) (part : Part) : OpenGroup := { g with parts := part :: g.parts }

def OpenGroup.pattern (g : OpenGroup) : Pattern × Nat :=
  chooseParts (g.choices.reverse ++ [sequenceParts g.parts.reverse])

def OpenGroup.next (g : OpenGroup) : OpenGroup :=
  { g with choices := sequenceParts g.parts.reverse :: g.choices, parts := [] }

/-- Reads up to a closing parenthesis or the end.  `fuel` is greater than the number of
characters. -/
def alternatives? : Nat → Flags → OpenGroup → List Char → Option (OpenGroup × List Char)
  | 0, _, _, _ => none
  | fuel + 1, f, g, rest =>
    match f.skip rest with
    | [] => some (g, [])
    | ')' :: rest => some (g, ')' :: rest)
    | '|' :: rest => alternatives? fuel f g.next rest
    | '(' :: rest => do
      let (start, rest) ← groupStart? f rest
      let inside := fun (name : Option String) (names : List String) (inner : Flags) => do
        let (body, rest) ← alternatives? fuel inner { names } rest
        match rest with
        | ')' :: rest =>
          let (a, depth) := body.pattern
          alternatives? fuel f
            { g with names := body.names, parts := .pattern (group name a) (depth + 1) :: g.parts }
            rest
        | _ => none
      match start with
      | .onlyFlags f => alternatives? fuel f (g.add .flags) rest
      | .named name => if name ∈ g.names then none else inside (some name) (name :: g.names) f
      | .plain => inside none g.names f
      | .withFlags inner => inside none g.names inner
    | c :: after =>
      if c ∈ ['?', '*', '+', '\x7B'] then do
        let ((low, high), rest) ← repetition? f (c :: after)
        let (marked, rest) := match rest with
          | '?' :: rest => (true, rest)
          | rest => (false, rest)
        let parts ← repeatLast? f low high marked g.parts
        alternatives? fuel f { g with parts } rest
      else do
        let (part, rest) ← unit? f (c :: after)
        alternatives? fuel f (g.add part) rest

/-- The pattern that a text writes, if it writes one. -/
def ofText? (s : String) : Option Pattern := do
  let text := s.toList
  let (g, rest) ← alternatives? (text.length + 1) {} { names := [] } text
  if !rest.isEmpty then none
  else
    let (a, depth) := g.pattern
    if depth ≤ depthLimit ∧ a.weight ≤ weightLimit then some a else none

end LoginGate.Pattern
