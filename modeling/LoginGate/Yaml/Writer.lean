import LoginGate.Json.Writer
import LoginGate.Yaml.Cursor
import LoginGate.Yaml.Scalar

/-!
# Writing YAML

Values are written in block style, two columns to a level; the items of a list stand in the column
of the key that holds them.  A text is plain where it would be read back as itself, a literal block
if it has several lines, and quoted otherwise:

    styleOf s = literal        s has a line feed, and a block can hold it
    styleOf s = singleQuoted   plain, s would be taken for something else
    styleOf s = doubleQuoted   s has characters that only escapes can write
-/

namespace LoginGate.Yaml

open LoginGate.Text

/-! ## Characters -/

/-- The characters that are written as they are, inside quotes at least. -/
def isPlainCharacter (c : Char) : Bool :=
  let n := c.toNat
  n = 10 || (0x20 ≤ n && n ≤ 0x7E) || (0xA0 ≤ n && n ≤ 0xD7FF) ||
  (0xE000 ≤ n && n ≤ 0xFFFD && n ≠ 0xFEFF) || 0x10000 ≤ n

/-- The characters that start something else than a plain scalar. -/
def isLeadingIndicator (c : Char) : Bool :=
  "#,[]\x7b\x7d&*!|>'\"%@`".toList.contains c

/-! ## Styles of texts -/

inductive Style where
  | plain
  | singleQuoted
  | doubleQuoted
  | literal
  deriving DecidableEq, Repr

/-- Does `p` hold of two neighbours? -/
def anyNeighbours (p : Char → Char → Bool) (s : List Char) : Bool :=
  (s.zip s.tail).any fun pair => p pair.1 pair.2

/-- Does a gap or the end follow the first character? -/
def gapFollows : List Char → Bool
  | _ :: c :: _ => isGap c
  | _ => true

/-- Would a part of the text be taken for an indicator? -/
def hasIndicator (s : List Char) : Bool :=
  (dropPrefix? "---".toList s).isSome || (dropPrefix? "...".toList s).isSome ||
  (s.head?.any isLeadingIndicator) ||
  ((s.head? = some '?' || s.head? = some '-') && gapFollows s) ||
  s.getLast? = some ':' || anyNeighbours (fun a b => a = ':' && isGap b) s ||
  anyNeighbours (fun a b => isGap a && b = '#') s

/-- Does `p` hold of the first or the last character? -/
def atEnds (p : Char → Bool) (s : List Char) : Bool := s.head?.any p || s.getLast?.any p

/-- Has the text a character that only an escape can write, or a space before a line break? -/
def needsEscapes (s : List Char) : Bool :=
  !s.all isPlainCharacter || anyNeighbours (fun a b => a = ' ' && isBreak b) s

def fitsSingleQuotes (s : List Char) : Bool :=
  !needsEscapes s && !anyNeighbours (fun a b => isBreak a && b = ' ') s

/-- Can a literal block hold the text? -/
def fitsBlock (s : List Char) : Bool := !needsEscapes s && s.getLast? ≠ some ' '

/-- Can the text stand without quotes? -/
def fitsPlain (s : List Char) : Bool :=
  fitsSingleQuotes s && !s.any isBreak && !hasIndicator s && !atEnds (· == ' ') s

/-- Would the text without quotes be taken for something else, or for a number by some readers? -/
def isAmbiguous (s : List Char) : Bool := resolve s != .text || isPaddedDigits s

def styleOf (s : List Char) : Style :=
  if s.contains '\n' then (if fitsBlock s then .literal else .doubleQuoted)
  else if !isAmbiguous s && fitsPlain s then .plain
  else if fitsSingleQuotes s then .singleQuoted
  else .doubleQuoted

/-! ## Texts -/

def indentation (column : Nat) : List Char := List.replicate column ' '

/-- The digits of an escape in base sixteen. -/
def hexEscape (width n : Nat) : List Char :=
  padZeros width ((inBase 16 n).map fun c => if c.toNat < 97 then c else Char.ofNat (c.toNat - 32))

def shortEscape? (c : Char) : Option Char :=
  match c.toNat with
  | 0x00 => some '0'
  | 0x07 => some 'a'
  | 0x08 => some 'b'
  | 0x09 => some 't'
  | 0x0A => some 'n'
  | 0x0B => some 'v'
  | 0x0C => some 'f'
  | 0x0D => some 'r'
  | 0x1B => some 'e'
  | 0x22 => some '"'
  | 0x5C => some '\\'
  | 0x85 => some 'N'
  | 0x2028 => some 'L'
  | 0x2029 => some 'P'
  | _ => none

def escapeChar (c : Char) : List Char :=
  match shortEscape? c with
  | some letter => ['\\', letter]
  | none =>
    if isPlainCharacter c then [c]
    else if c.toNat ≤ 0xFF then '\\' :: 'x' :: hexEscape 2 c.toNat
    else if c.toNat ≤ 0xFFFF then '\\' :: 'u' :: hexEscape 4 c.toNat
    else '\\' :: 'U' :: hexEscape 8 c.toNat

def doubleQuoted (s : List Char) : List Char := '"' :: s.flatMap escapeChar ++ ['"']

/-- Lines of a text, each but the first indented; `fresh` says whether a line has just begun, and a
line that ends the text is indented if `last` is set. -/
def indentLines (column : Nat) (write : Char → List Char) (last : Bool) :
    Bool → List Char → List Char
  | fresh, [] => if fresh && last then indentation column else []
  | fresh, c :: rest =>
    if isBreak c then c :: indentLines column write last true rest
    else (if fresh then indentation column else []) ++
      write c ++ indentLines column write last false rest

def singleQuotedChar (c : Char) : List Char := if c = '\'' then ['\'', '\''] else [c]

def singleQuoted (column : Nat) (s : List Char) : List Char :=
  '\'' :: indentLines column singleQuotedChar true false s ++ ['\'']

/-- Whether a block keeps the breaks at its end: none is stripped, one is the rule, more are kept.
-/
def chompingMark (s : List Char) : List Char :=
  match s.reverse with
  | a :: b :: _ => if !isBreak a then ['-'] else if isBreak b then ['+'] else []
  | [a] => if isBreak a then ['+'] else ['-']
  | [] => ['-']

/-- The indentation is told where the text itself starts with a space or a break. -/
def indentationMark (s : List Char) : List Char :=
  if s.head?.any (fun c => c = ' ' || isBreak c) then ['2'] else []

def literalBlock (column : Nat) (s : List Char) : List Char :=
  '|' :: indentationMark s ++ chompingMark s ++ '\n' ::
    indentLines column (fun c => [c]) false true s

/-- A text, with further lines in `column`. -/
def writeText (column : Nat) (s : List Char) : List Char :=
  match styleOf s with
  | .plain => s
  | .singleQuoted => singleQuoted column s
  | .doubleQuoted => doubleQuoted s
  | .literal => literalBlock column s

/-! ## Values -/

/-- A line break, unless the text ends in one. -/
def endLine (s : List Char) : List Char := if s.getLast?.any isBreak then s else s ++ ['\n']

/-- Entries, each on a line of its own that starts in `column`; the first stands where it is put. -/
def writeEntries (column : Nat) : List (List Char) → List Char
  | [] => []
  | [entry] => entry
  | entry :: rest => endLine entry ++ indentation column ++ writeEntries column rest

/-- Can the key stand before a colon on one line? -/
def isSimpleKey (key : List Char) : Bool :=
  !key.any isBreak && (key.flatMap String.utf8EncodeChar).length ≤ 128

mutual

/-- A value behind a key that stands in `column`, from the colon on. -/
def writeAfterKey (column : Nat) : Json → List Char
  | .list (v :: rest) =>
    ':' :: '\n' :: indentation column ++ writeEntries column (writeItems column (v :: rest))
  | .object (m :: rest) =>
    ':' :: '\n' :: indentation (column + 2) ++
      writeEntries (column + 2) (writeMembers (column + 2) (m :: rest))
  | .list [] => ": []".toList
  | .object [] => ':' :: ' ' :: ['{', '}']
  | .null => ": null".toList
  | .bool true => ": true".toList
  | .bool false => ": false".toList
  | .number n => ':' :: ' ' :: n.text
  | .text s => ':' :: ' ' :: writeText (column + 2) s.toList

/-- A value that starts in `column`, behind a mark or at the start of a line. -/
def writeInPlace (column : Nat) : Json → List Char
  | .list (v :: rest) => writeEntries column (writeItems column (v :: rest))
  | .object (m :: rest) => writeEntries column (writeMembers column (m :: rest))
  | .list [] => ['[', ']']
  | .object [] => ['{', '}']
  | .null => "null".toList
  | .bool true => "true".toList
  | .bool false => "false".toList
  | .number n => n.text
  | .text s => writeText column s.toList

def writeItems (column : Nat) : List Json → List (List Char)
  | [] => []
  | v :: rest => ('-' :: ' ' :: writeInPlace (column + 2) v) :: writeItems column rest

/-- The members of an object in `column`.  A key that is long or has breaks gets a line of its own.
-/
def writeMembers (column : Nat) : List (String × Json) → List (List Char)
  | [] => []
  | (key, v) :: rest =>
    (if isSimpleKey key.toList then
      writeText (column + 2) key.toList ++ writeAfterKey column v
    else
      endLine ('?' :: ' ' :: writeText (column + 2) key.toList) ++
        indentation column ++ ':' :: ' ' :: writeInPlace (column + 2) v) ::
      writeMembers column rest

end

/-- The document that holds a value. -/
def write (value : Json) : String := String.ofList (endLine (writeInPlace 0 value))

end LoginGate.Yaml
