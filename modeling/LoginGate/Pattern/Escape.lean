import LoginGate.Pattern.Basic
import LoginGate.Pattern.ClassName
import LoginGate.Text.Numeral

/-!
# Escapes

A backslash makes a punctuation character stand for itself, and gives letters a meaning: a control
character, a set of characters, a character by its code point, or a boundary.  Other characters do
not follow a backslash; there are no references back to a group.
-/

namespace LoginGate.Pattern

open LoginGate.Text

/-- The smallest unit of a pattern. -/
inductive Atom where
  /-- A character; `octet` tells that it was written by two hexadecimal digits. -/
  | character (c : Char) (octet : Bool)
  | class_ (set : CharSet)
  | boundary (b : Boundary)
  deriving Repr

def charOfHex? (digits : List Char) : Option Char := do
  let n ← numeral? 16 digits
  if n.isValidChar then some (Char.ofNat n) else none

/-- As many hexadecimal digits, and what follows. -/
def fixedHex? (f : Flags) : Nat → List Char → Option (List Char × List Char)
  | 0, rest => some ([], rest)
  | count + 1, rest =>
    match f.skip rest with
    | [] => none
    | c :: rest =>
      if (hexValue? c).isSome then
        (fixedHex? f count rest).map fun (digits, rest) => (c :: digits, rest)
      else none

/-- The characters up to a closing brace, and what follows.  `fuel` is at least the number of
characters. -/
def untilBrace? (f : Flags) : Nat → List Char → Option (List Char × List Char)
  | 0, _ => none
  | fuel + 1, rest =>
    match f.skip rest with
    | [] => none
    | '\x7D' :: rest => some ([], rest)
    | c :: rest => (untilBrace? f fuel rest).map fun (s, rest) => (c :: s, rest)

/-- A character by its code point; `count` is the number of digits unless they stand in braces. -/
def codePoint? (f : Flags) (count : Nat) (rest : List Char) : Option (Atom × List Char) :=
  match f.skip rest with
  | '\x7B' :: rest => do
    let (digits, rest) ← untilBrace? f (rest.length + 1) rest
    some (.character (← charOfHex? digits) false, f.skip rest)
  | rest => do
    let (digits, rest) ← fixedHex? f count rest
    some (.character (← charOfHex? digits) (count == 2), f.skip rest)

/-- A set by the name that follows. -/
def propertySet? (f : Flags) (negated : Bool) (rest : List Char) : Option (Atom × List Char) := do
  let (set, rest) ← match f.skip rest with
    | '\x7B' :: rest => do
      let (name, rest) ← untilBrace? f (rest.length + 1) rest
      some (← braceClass? name, rest)
    | '\\' :: _ => none
    | c :: rest => do some (← namedClass? [c], f.skip rest)
    | [] => none
  if f.unicode then some (.class_ (← f.orNot negated (f.fold set)), rest) else none

/-- The kind of word boundary that a name in braces chooses. -/
def wordEdge? (name : String) : Option WordEdge :=
  match name with
  | "start" => some .start
  | "end" => some .finish
  | "start-half" => some .startHalf
  | "end-half" => some .finishHalf
  | _ => none

/-- The letters and hyphens at the start of a text, and what follows. -/
def edgeName (f : Flags) : Nat → List Char → List Char × List Char
  | 0, rest => ([], rest)
  | fuel + 1, rest =>
    match rest with
    | c :: after =>
      if c.isAlpha || c = '-' then
        let (name, rest) := edgeName f fuel (f.skip after)
        (c :: name, rest)
      else ([], rest)
    | [] => ([], [])

/-- A word boundary, and its kind if one is named in braces. -/
def wordBoundary? (f : Flags) (rest : List Char) : Option (Atom × List Char) :=
  let plain := Atom.boundary (.word f.unicode .anyEdge)
  match rest with
  | '\x7B' :: inner =>
    let inner := f.skip inner
    match edgeName f (inner.length + 1) inner with
    | ([], []) => none
    | ([], _) => some (plain, rest)
    | (name, '\x7D' :: rest) => do
      some (.boundary (.word f.unicode (← wordEdge? (String.ofList name))), rest)
    | _ => none
  | _ => some (plain, rest)

/-- The control character that a letter stands for. -/
def control? (letter : Char) : Option Char :=
  match letter with
  | 'a' => some '\x07'
  | 'f' => some '\x0C'
  | 't' => some '\t'
  | 'n' => some '\n'
  | 'r' => some '\r'
  | 'v' => some '\x0B'
  | _ => none

/-- What a backslash and the characters after it mean, and what follows. -/
def escape? (f : Flags) : List Char → Option (Atom × List Char)
  | [] => none
  | c :: rest =>
    match c with
    | 'x' => codePoint? f 2 rest
    | 'u' => codePoint? f 4 rest
    | 'U' => codePoint? f 8 rest
    | 'p' => propertySet? f false rest
    | 'P' => propertySet? f true rest
    | 'A' => some (.boundary .textStart, rest)
    | 'z' => some (.boundary .textEnd, rest)
    | 'b' => wordBoundary? f rest
    | 'B' => some (.boundary (.word f.unicode .noEdge), rest)
    | '<' => some (.boundary (.word f.unicode .start), rest)
    | '>' => some (.boundary (.word f.unicode .finish), rest)
    | _ =>
      match letterClass f.unicode c, letterClass f.unicode c.toLower, control? c with
      | some set, _, _ => some (.class_ set, rest)
      | none, some set, _ => do some (.class_ (← f.orNot true set), rest)
      | none, none, some control => some (.character control false, rest)
      | none, none, none =>
        if c.toNat < 128 ∧ !c.isAlphanum then some (.character c false, rest) else none

/-- A character that a set may hold: outside of Unicode one beyond ASCII may not be written by two
digits, and `inBrackets` it may not be written at all. -/
def allowed (f : Flags) (octet inBrackets : Bool) (c : Char) : Bool :=
  f.unicode || c.toNat < 128 || (!octet && !inBrackets)

end LoginGate.Pattern
