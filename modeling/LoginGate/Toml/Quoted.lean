import LoginGate.Text.Numeral
import LoginGate.Text.Pieces

/-!
# Quoted texts

A text between double quotes holds escapes; a text between single quotes holds none.  Either may be
put between three quotes, and then goes over several lines: a line break after the opening quotes
does not count, and up to two quotes may stand anywhere, also in front of the closing ones.  Between
double quotes a backslash at the end of a line takes away all blank characters after it.

`quoted` chooses the plainest form that needs no escapes.
-/

namespace LoginGate.Toml

open LoginGate.Text

/-- Characters that no quoted text holds as they are. -/
def isControl (c : Char) : Bool := (c.toNat < 32 && c != '\t') || c.toNat = 127

/-! ## Reading -/

/-- The character of a code point that is written with exactly so many hexadecimal digits, and what
follows. -/
def codePoint? (count : Nat) (s : List Char) : Option (Char × List Char) := do
  let digits := s.take count
  let n ← numeral? 16 digits
  if digits.length = count ∧ n.isValidChar then some (Char.ofNat n, s.drop count) else none

/-- The character that an escape stands for, after its backslash, and what follows. -/
def escape? (s : List Char) : Option (Char × List Char) :=
  match s with
  | 'b' :: rest => some ('\x08', rest)
  | 't' :: rest => some ('\t', rest)
  | 'n' :: rest => some ('\n', rest)
  | 'f' :: rest => some ('\x0C', rest)
  | 'r' :: rest => some ('\r', rest)
  | '"' :: rest => some ('"', rest)
  | '\\' :: rest => some ('\\', rest)
  | 'u' :: rest => codePoint? 4 rest
  | 'U' :: rest => codePoint? 8 rest
  | _ => none

/-- A text on one line up to its closing quote, and what follows.  `fuel` is greater than the number
of characters. -/
def line? (quote : Char) : Nat → List Char → Option (List Char × List Char)
  | 0, _ => none
  | _, [] => none
  | fuel + 1, c :: rest =>
    if c = quote then some ([], rest)
    else if c = '\\' ∧ quote = '"' then do
      let (d, rest) ← escape? rest
      (line? quote fuel rest).map fun (s, rest) => (d :: s, rest)
    else if isControl c then none
    else (line? quote fuel rest).map fun (s, rest) => (c :: s, rest)

/-- What follows a line break at the start of a text. -/
def afterBreak? (s : List Char) : Option (List Char) :=
  match s with
  | '\n' :: rest => some rest
  | '\r' :: '\n' :: rest => some rest
  | _ => none

def isSpace (c : Char) : Bool := c = ' ' || c = '\t'

/-- What follows line breaks, spaces and tabs. -/
def skipLines : List Char → List Char
  | [] => []
  | c :: rest =>
    if isSpace c || c = '\n' then skipLines rest
    else match c, rest with
      | '\r', '\n' :: after => skipLines after
      | _, _ => c :: rest

/-- A text over several lines up to its closing quotes, and what follows. -/
def lines? (quote : Char) : Nat → List Char → Option (List Char × List Char)
  | 0, _ => none
  | _, [] => none
  | fuel + 1, c :: rest =>
    if c = quote then
      let run := (c :: rest).takeWhile (· = quote)
      if run.length < 3 then
        (lines? quote fuel rest).map fun (s, rest) => (c :: s, rest)
      else if run.length ≤ 5 then some (run.drop 3, rest.drop (run.length - 1))
      else none
    else if c = '\\' ∧ quote = '"' then
      match afterBreak? (rest.dropWhile isSpace) with
      | some after => lines? quote fuel (skipLines after)
      | none => do
        let (d, rest) ← escape? rest
        (lines? quote fuel rest).map fun (s, rest) => (d :: s, rest)
    else match c, rest with
      | '\r', '\n' :: _ => (lines? quote fuel rest).map fun (s, rest) => (c :: s, rest)
      | _, _ =>
        if isControl c && c != '\n' then none
        else (lines? quote fuel rest).map fun (s, rest) => (c :: s, rest)

/-- A text in quotes of the given kind, after the first quote, and what follows. -/
def quotedText? (quote : Char) (s : List Char) : Option (List Char × List Char) :=
  match dropPrefix? [quote, quote] s with
  | some rest => lines? quote (rest.length + 1) ((afterBreak? rest).getD rest)
  | none => line? quote (s.length + 1) s

/-! ## Writing -/

def longestRun (c : Char) (s : List Char) : Nat :=
  let (longest, last) := s.foldl (fun (longest, run) d =>
    if d = c then (longest, run + 1) else (max longest run, 0)) (0, 0)
  max longest last

def fourDigits (n : Nat) : List Char := padZeros 4 ((inBase 16 n).map Char.toUpper)

/-- A character between double quotes.  `run` is the number of double quotes before it, and
`overLines` tells that line breaks stand for themselves. -/
def escapedChar (overLines : Bool) (run : Nat) (c : Char) : List Char :=
  match c with
  | '\x08' => ['\\', 'b']
  | '\t' => ['\\', 't']
  | '\n' => if overLines then ['\n'] else ['\\', 'n']
  | '\x0C' => ['\\', 'f']
  | '\r' => ['\\', 'r']
  | '\\' => ['\\', '\\']
  | '"' => if run < (if overLines then 2 else 0) then ['"'] else ['\\', '"']
  | c => if isControl c then '\\' :: 'u' :: fourDigits c.toNat else [c]

/-- A text between double quotes, escaped.  `run` is the number of unescaped quotes before it. -/
def escaped (overLines : Bool) (run : Nat) : List Char → List Char
  | [] => []
  | c :: rest =>
    let text := escapedChar overLines run c
    text ++ escaped overLines (if text = ['"'] then run + 1 else 0) rest

/-- A text in the plainest quotes that it fits: double quotes, single quotes, three double quotes,
three single quotes, all without escapes; otherwise between double quotes, three of them where there
is more than one line. -/
def quoted (s : List Char) : List Char :=
  let control := s.any fun c => isControl c && c != '\n'
  let backslash := s.contains '\\'
  let overLines := s.contains '\n'
  let doubles := longestRun '"' s
  let singles := longestRun '\'' s
  let three := ['"', '"', '"']
  if !control && !backslash && doubles = 0 && !overLines then
    '"' :: escaped false 0 s ++ ['"']
  else if !control && singles = 0 && !overLines then '\'' :: s ++ ['\'']
  else if !control && !backslash && doubles ≤ 2 then three ++ '\n' :: escaped true 0 s ++ three
  else if !control && singles ≤ 2 then
    ['\'', '\'', '\'', '\n'] ++ s ++ ['\'', '\'', '\'']
  else if overLines then three ++ '\n' :: escaped true 0 s ++ three
  else '"' :: escaped false 0 s ++ ['"']

end LoginGate.Toml
