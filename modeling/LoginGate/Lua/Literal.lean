import LoginGate.Text.Numeral

/-!
# Lua literals

String literals and table constructors of the generated script.  `quote` leaves no control
character in the literal and escapes every quote and backslash, so a literal ends where it is meant
to, whatever it holds and whatever follows.
-/

namespace LoginGate.Lua

open LoginGate.Text

/-- The control characters: below U+0020, and from U+007F to U+009F. -/
def isControl (c : Char) : Bool :=
  c.toNat < 0x20 || (0x7F ≤ c.toNat && c.toNat < 0xA0)

/-- A byte by its number, always three digits. -/
def escapeByte (b : UInt8) : List Char := '\\' :: padZeros 3 (decimal b.toNat)

def escapeChar (c : Char) : List Char :=
  if c = '\\' then ['\\', '\\']
  else if c = '"' then ['\\', '"']
  else if c = '\n' then ['\\', 'n']
  else if c = '\r' then ['\\', 'r']
  else if c = '\t' then ['\\', 't']
  else if isControl c then (String.utf8EncodeChar c).flatMap escapeByte
  else [c]

def quoteChars (s : List Char) : List Char := '"' :: s.flatMap escapeChar ++ ['"']

/-- The literal that denotes a text. -/
def quote (s : String) : String := String.ofList (quoteChars s.toList)

/-- A table constructor with the given fields. -/
def table (fields : List String) : String := "\x7b" ++ ",".intercalate fields ++ "\x7d"

/-- A table constructor with one string for each key, in the given order. -/
def stringTable (entries : List (String × String)) : String :=
  table (entries.map fun entry => "[" ++ quote entry.1 ++ "]=" ++ quote entry.2)

/-- A set of strings: a table constructor that maps each to `true`. -/
def stringSet (keys : List String) : String :=
  table (keys.map fun key => "[" ++ quote key ++ "]=true")

end LoginGate.Lua
