import LoginGate.Toml.Draft
import LoginGate.Toml.Quoted
import LoginGate.Toml.Scalar

/-!
# Reading TOML documents

A document is a sequence of lines: headers of tables, bindings of keys, comments.  `read?` gives its
members, or nothing if a line is not well-formed, a key is bound twice, or a table is opened twice.
-/

namespace LoginGate.Toml

open LoginGate.Text

/-- How deep lists and inline tables may be nested. -/
def depthLimit : Nat := 80

/-! ## Blank characters, comments and keys -/

def skipSpaces (s : List Char) : List Char := s.dropWhile isSpace

/-- What follows a comment, if there is one; the line break is not part of it. -/
def skipComment? (s : List Char) : Option (List Char) :=
  match s with
  | '#' :: rest =>
    let inside := fun (c : Char) => c != '\n' && c != '\r'
    if (rest.takeWhile inside).any isControl then none else some (rest.dropWhile inside)
  | s => some s

/-- What follows the rest of a line: spaces, a comment, and a line break or the end. -/
def endLine? (s : List Char) : Option (List Char) := do
  let rest ← skipComment? (skipSpaces s)
  if rest.isEmpty then some [] else afterBreak? rest

/-- What follows any number of spaces, comments and line breaks.  `fuel` is greater than the number
of characters. -/
def skipFree? : Nat → List Char → Option (List Char)
  | 0, _ => none
  | fuel + 1, s => do
    let rest ← skipComment? (skipSpaces s)
    match afterBreak? rest with
    | some rest => skipFree? fuel rest
    | none => some rest

def isKeyChar (c : Char) : Bool := c.isAlphanum || c = '_' || c = '-'

/-- One part of a key, and what follows. -/
def keyPart? (s : List Char) : Option (String × List Char) :=
  match s with
  | '"' :: rest => (line? '"' (rest.length + 1) rest).map fun (s, rest) => (String.ofList s, rest)
  | '\'' :: rest => (line? '\'' (rest.length + 1) rest).map fun (s, rest) => (String.ofList s, rest)
  | s =>
    match s.takeWhile isKeyChar with
    | [] => none
    | name => some (String.ofList name, s.dropWhile isKeyChar)

/-- The parts of a key, separated by dots, and what follows the spaces after it. -/
def key? : Nat → List Char → Option (List String × List Char)
  | 0, _ => none
  | fuel + 1, s => do
    let (part, rest) ← keyPart? (skipSpaces s)
    match skipSpaces rest with
    | '.' :: rest => (key? fuel rest).map fun (parts, rest) => (part :: parts, rest)
    | rest => some ([part], rest)

/-! ## Values -/

def isScalarChar (c : Char) : Bool :=
  !isSpace c && c ∉ ['\n', '\r', ',', ']', '[', '\x7D', '\x7B', '#', '=', '"', '\'']

/-- A scalar without quotes, and what follows.  The two parts of a moment may be separated by one
space. -/
def bare? (s : List Char) : Option (Value × List Char) :=
  let first := s.takeWhile isScalarChar
  let rest := s.dropWhile isScalarChar
  match date? first, rest with
  | some (_, []), ' ' :: c :: after =>
    if isDigit c then
      let second := (c :: after).takeWhile isScalarChar
      (scalar? (first ++ ' ' :: second)).map fun v => (v, (c :: after).dropWhile isScalarChar)
    else (scalar? first).map fun v => (v, rest)
  | _, _ => (scalar? first).map fun v => (v, rest)

mutual

/-- A value, and what follows.  `fuel` is greater than the number of characters, and `depth` is the
number of lists and inline tables around. -/
def value? (fuel depth : Nat) (s : List Char) : Option (Value × List Char) :=
  match fuel with
  | 0 => none
  | fuel + 1 =>
    match s with
    | '"' :: rest => (quotedText? '"' rest).map fun (s, rest) => (.text (String.ofList s), rest)
    | '\'' :: rest => (quotedText? '\'' rest).map fun (s, rest) => (.text (String.ofList s), rest)
    | '[' :: rest =>
      if depth < depthLimit then
        (items? fuel (depth + 1) rest).map fun (items, rest) => (.list items, rest)
      else none
    | '\x7B' :: rest =>
      if depth < depthLimit then
        match skipSpaces rest with
        | '\x7D' :: rest => some (.table [], rest)
        | rest => (bindings? fuel (depth + 1) ⟨.inline, []⟩ rest).map fun (t, rest) =>
            (.table (finishMembers t.members), rest)
      else none
    | s => bare? s

/-- The items of a list up to its closing bracket, and what follows. -/
def items? (fuel depth : Nat) (s : List Char) : Option (List Value × List Char) :=
  match fuel with
  | 0 => none
  | fuel + 1 => do
    let rest ← skipFree? (s.length + 1) s
    match rest with
    | ']' :: rest => some ([], rest)
    | rest => do
      let (v, rest) ← value? fuel depth rest
      let rest ← skipFree? (rest.length + 1) rest
      match rest with
      | ',' :: rest => (items? fuel depth rest).map fun (items, rest) => (v :: items, rest)
      | ']' :: rest => some ([v], rest)
      | _ => none

/-- The bindings of an inline table up to its closing brace, and what follows. -/
def bindings? (fuel depth : Nat) (t : DraftTable) (s : List Char) :
    Option (DraftTable × List Char) :=
  match fuel with
  | 0 => none
  | fuel + 1 => do
    let (parts, rest) ← key? (s.length + 1) s
    match rest with
    | '=' :: rest => do
      let (v, rest) ← value? fuel depth (skipSpaces rest)
      let t ← t.bind? .inlineDotted parts.dropLast (parts.getLast?.getD "") v
      match skipSpaces rest with
      | ',' :: rest => bindings? fuel depth t rest
      | '\x7D' :: rest => some (t, rest)
      | _ => none
    | _ => none

end

/-! ## Documents -/

/-- A document up to some line: its tables, and the path of the table that bindings go to. -/
structure Progress where
  root : DraftTable := ⟨.header, []⟩
  current : List String := []
  deriving Repr

/-- Reads a header after its first bracket: a table, or an element of a list of tables. -/
def header? (p : Progress) (s : List Char) : Option (Progress × List Char) := do
  let (element, s) := match s with
    | '[' :: rest => (true, rest)
    | s => (false, s)
  let (parts, rest) ← key? (s.length + 1) s
  let key := parts.getLast?.getD ""
  match element, rest with
  | false, ']' :: rest => do
    some ({ root := ← p.root.openTable? parts.dropLast key, current := parts }, ← endLine? rest)
  | true, ']' :: ']' :: rest => do
    some ({ root := ← p.root.openElement? parts.dropLast key, current := parts }, ← endLine? rest)
  | _, _ => none

def binding? (p : Progress) (s : List Char) : Option (Progress × List Char) := do
  let (parts, rest) ← key? (s.length + 1) s
  match rest with
  | '=' :: rest => do
    let (v, rest) ← value? (rest.length + 1) 0 (skipSpaces rest)
    let root ← p.root.within .implied p.current fun t =>
      t.bind? .dotted parts.dropLast (parts.getLast?.getD "") v
    some ({ p with root }, ← endLine? rest)
  | _ => none

/-- Reads the lines of a document.  `fuel` is greater than the number of characters. -/
def readLines? : Nat → Progress → List Char → Option Progress
  | 0, _, _ => none
  | fuel + 1, p, s => do
    let rest ← skipFree? (s.length + 1) s
    match rest with
    | [] => some p
    | '[' :: rest => do
      let (p, rest) ← header? p rest
      readLines? fuel p rest
    | rest => do
      let (p, rest) ← binding? p rest
      readLines? fuel p rest

/-- The members of the document that a text writes; a byte order mark in front does not count. -/
def read? (text : String) : Option (List (String × Value)) :=
  let s := match text.toList with
    | '\uFEFF' :: rest => rest
    | s => s
  (readLines? (s.length + 1) {} s).map fun p => finishMembers p.root.members

end LoginGate.Toml
