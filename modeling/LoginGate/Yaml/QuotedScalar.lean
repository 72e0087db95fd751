import LoginGate.Yaml.Folding

/-!
# Quoted scalars

Between single quotes a doubled quote stands for one; between double quotes a backslash starts an
escape, and before a line break it joins the lines.  Gaps are folded in both.
-/

namespace LoginGate.Yaml

open LoginGate.Text

inductive Quote where
  | single
  | double
  deriving DecidableEq, Repr

def Quote.char : Quote → Char
  | single => '\''
  | double => '"'

def simpleEscape? (letter : Char) : Option Char :=
  match letter with
  | '0' => some (Char.ofNat 0)
  | 'a' => some (Char.ofNat 7)
  | 'b' => some (Char.ofNat 8)
  | 't' => some '\t'
  | '\t' => some '\t'
  | 'n' => some '\n'
  | 'v' => some (Char.ofNat 11)
  | 'f' => some (Char.ofNat 12)
  | 'r' => some '\r'
  | 'e' => some (Char.ofNat 27)
  | ' ' => some ' '
  | '"' => some '"'
  | '/' => some '/'
  | '\\' => some '\\'
  | 'N' => some (Char.ofNat 0x85)
  | '_' => some (Char.ofNat 0xA0)
  | 'L' => some (Char.ofNat 0x2028)
  | 'P' => some (Char.ofNat 0x2029)
  | _ => none

def escapeWidth? (letter : Char) : Option Nat :=
  if letter = 'x' then some 2
  else if letter = 'u' then some 4
  else if letter = 'U' then some 8
  else none

/-- The character with a code point, if there is one. -/
def charOfCodePoint? (n : Nat) : Option Char :=
  if n < 0xD800 ∨ (0xDFFF < n ∧ n ≤ 0x10FFFF) then some (Char.ofNat n) else none

/-- What follows a backslash: its character, and how many characters were read. -/
def escape? (letter : Char) (rest : List Char) : Option (Char × Nat) :=
  match escapeWidth? letter with
  | none => (simpleEscape? letter).map fun x => (x, 1)
  | some width =>
    let digits := rest.take width
    if digits.length < width then none
    else do
      let x ← charOfCodePoint? (← numeral? 16 digits)
      some (x, width + 1)

/-- One character of the text between quotes, and how many characters write it. -/
def quotedUnit? (quote : Quote) : List Char → Option (Char × Nat)
  | [] => none
  | x :: rest =>
    match quote with
    | .single => some (x, if x = '\'' then 2 else 1)
    | .double =>
      if x = '\\' then
        match rest with
        | letter :: rest => (escape? letter rest).map fun unit => (unit.1, unit.2 + 1)
        | [] => none
      else some (x, 1)

def atClosingQuote (quote : Quote) : List Char → Bool
  | x :: rest => x == quote.char && !(quote == .single && rest.head? == some '\'')
  | [] => false

/-- Is this a backslash in front of a line break? -/
def atJoint (quote : Quote) : List Char → Bool
  | '\\' :: x :: _ => quote == .double && isBreak x
  | _ => false

/-- The text up to the closing quote and what is behind it; `read` holds what was read, reversed. -/
def quotedFrom? (quote : Quote) : Nat → List Char → Cursor → Option (List Char × Cursor)
  | 0, _, _ => none
  | fuel + 1, read, c =>
    if c.atDocumentMark then none
    else if atClosingQuote quote c.rest then some (read.reverse, c.skip 1)
    else if c.sees isGap then do
      let (gap, behind) ← c.takeGap? 0
      quotedFrom? quote fuel (gap.text.reverse ++ read) behind
    else if atJoint quote c.rest then do
      let next := (c.skip 1).takeBreak.2
      let (gap, behind) ← Gap.extend? 0 (next.rest.length + 1) { broken := true } next
      quotedFrom? quote fuel (gap.text.reverse ++ read) behind
    else do
      let (x, width) ← quotedUnit? quote c.rest
      quotedFrom? quote fuel (x :: read) (c.skip width)

/-- The quoted scalar at the cursor, which stands on its opening quote. -/
def Cursor.quotedScalar? (c : Cursor) (quote : Quote) : Option (List Char × Cursor) :=
  quotedFrom? quote (c.rest.length + 1) [] (c.skip 1)

end LoginGate.Yaml
