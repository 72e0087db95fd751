import LoginGate.Json.Basic

/-!
# Writing JSON

`compact` writes a value on one line without spaces; `pretty` writes one member or item to a line,
indented by two spaces for each level, and an empty list or object as `[]` or `{}`.
-/

namespace LoginGate.Json

open LoginGate.Text

/-- A character inside a quoted text: quotes, backslashes and controls below U+0020 are escaped. -/
def escapeChar (c : Char) : List Char :=
  if c = '"' then ['\\', '"']
  else if c = '\\' then ['\\', '\\']
  else if c = '\n' then ['\\', 'n']
  else if c = '\r' then ['\\', 'r']
  else if c = '\t' then ['\\', 't']
  else if c.toNat = 8 then ['\\', 'b']
  else if c.toNat = 12 then ['\\', 'f']
  else if c.toNat < 32 then ['\\', 'u', '0', '0', hexDigit (c.toNat / 16), hexDigit (c.toNat % 16)]
  else [c]

def quoted (s : List Char) : List Char := '"' :: s.flatMap escapeChar ++ ['"']

/-- A number: whole numbers in decimal, others by their shortest digits. -/
def Number.text : Number → List Char
  | .whole z => if z < 0 then '-' :: decimal z.natAbs else decimal z.natAbs
  | .real x => x.scientificText range

mutual

def compactChars : Json → List Char
  | null => "null".toList
  | bool true => "true".toList
  | bool false => "false".toList
  | number n => n.text
  | text s => quoted s.toList
  | list items => '[' :: compactItems items ++ [']']
  | object members => '{' :: compactMembers members ++ ['}']

def compactItems : List Json → List Char
  | [] => []
  | [v] => compactChars v
  | v :: rest => compactChars v ++ ',' :: compactItems rest

def compactMembers : List (String × Json) → List Char
  | [] => []
  | [(k, v)] => quoted k.toList ++ ':' :: compactChars v
  | (k, v) :: rest => quoted k.toList ++ ':' :: compactChars v ++ ',' :: compactMembers rest

end

/-- A line break and the indentation of a level. -/
def newLine (level : Nat) : List Char := '\n' :: List.replicate (2 * level) ' '

mutual

/-- A value at an indentation level, one item or member to a line. -/
def prettyChars (level : Nat) : Json → List Char
  | list [] => ['[', ']']
  | list (v :: rest) => '[' :: prettyItems (level + 1) (v :: rest) ++ newLine level ++ [']']
  | object [] => ['{', '}']
  | object (m :: rest) => '{' :: prettyMembers (level + 1) (m :: rest) ++ newLine level ++ ['}']
  | null => "null".toList
  | bool true => "true".toList
  | bool false => "false".toList
  | number n => n.text
  | text s => quoted s.toList

def prettyItems (level : Nat) : List Json → List Char
  | [] => []
  | [v] => newLine level ++ prettyChars level v
  | v :: rest => newLine level ++ prettyChars level v ++ ',' :: prettyItems level rest

def prettyMembers (level : Nat) : List (String × Json) → List Char
  | [] => []
  | [(k, v)] => newLine level ++ quoted k.toList ++ ':' :: ' ' :: prettyChars level v
  | (k, v) :: rest =>
    newLine level ++ quoted k.toList ++ ':' :: ' ' :: prettyChars level v ++
      ',' :: prettyMembers level rest

end

/-- The value on one line without spaces. -/
def compact (value : Json) : String := String.ofList (compactChars value)

/-- The value over several lines, indented by two spaces for each level. -/
def pretty (value : Json) : String := String.ofList (prettyChars 0 value)

end LoginGate.Json
