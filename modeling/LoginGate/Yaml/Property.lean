import LoginGate.Yaml.Cursor
import LoginGate.Yaml.Token

/-!
# Anchors, tags and directives

A tag is written with a handle and a suffix, or between `<` and `>` as it is; percent signs escape
its bytes.  Directives declare a version or the meaning of a handle.
-/

namespace LoginGate.Yaml

open LoginGate.Text

/-! ## Anchors -/

/-- The characters that may follow the name of an anchor, gaps apart. -/
def endsAnchor (x : Char) : Bool := isGap x || "?:,]\x7d%@`".toList.contains x

/-- The name behind the mark of an anchor or an alias. -/
def Cursor.anchorName? (c : Cursor) : Option (List Char × Cursor) :=
  let (name, behind) := (c.skip 1).span isWordChar
  if name.isEmpty || !(behind.atEnd || behind.sees endsAnchor) then none else some (name, behind)

/-! ## Tags -/

/-- The characters of a tag, besides escapes; commas and square brackets only in a tag that is
written as it is. -/
def isTagChar (verbatim : Bool) (x : Char) : Bool :=
  isWordChar x || ";/?:@&=+$.!~*'()".toList.contains x ||
  (verbatim && (x = ',' || x = '[' || x = ']'))

/-- The number of bytes of a character by its first one. -/
def utf8Width? (byte : Nat) : Option Nat :=
  if byte < 0x80 then some 1
  else if byte < 0xC0 then none
  else if byte < 0xE0 then some 2
  else if byte < 0xF0 then some 3
  else if byte < 0xF8 then some 4
  else none

/-- The byte that an escape writes, and what is behind it. -/
def escapedByte? : List Char → Option (Nat × List Char)
  | '%' :: a :: b :: rest => do some ((← hexValue? a) * 16 + (← hexValue? b), rest)
  | _ => none

/-- `n` more bytes of one character, each written by an escape. -/
def laterBytes? : Nat → List Char → Option (List UInt8 × List Char)
  | 0, s => some ([], s)
  | n + 1, s => do
    let (byte, rest) ← escapedByte? s
    if byte / 64 = 2 then
      let (bytes, rest) ← laterBytes? n rest
      some (byte.toUInt8 :: bytes, rest)
    else none

/-- The bytes of a tag and what is behind it. -/
def tagBytes? (verbatim : Bool) : Nat → List Char → Option (List UInt8 × List Char)
  | 0, s => some ([], s)
  | _ + 1, [] => some ([], [])
  | fuel + 1, x :: rest =>
    if x = '%' then do
      let (byte, rest) ← escapedByte? (x :: rest)
      let (later, rest) ← laterBytes? ((← utf8Width? byte) - 1) rest
      let (bytes, rest) ← tagBytes? verbatim fuel rest
      some (byte.toUInt8 :: later ++ bytes, rest)
    else if isTagChar verbatim x then do
      let (bytes, rest) ← tagBytes? verbatim fuel rest
      some (String.utf8EncodeChar x ++ bytes, rest)
    else some ([], x :: rest)

def Cursor.tagBytes? (c : Cursor) (verbatim : Bool) : Option (List UInt8 × Cursor) := do
  let (bytes, rest) ← Yaml.tagBytes? verbatim c.rest.length c.rest
  some (bytes, c.skip (c.rest.length - rest.length))

/-- A handle at the cursor, which stands on an exclamation mark: word characters up to another such
mark, or as many as there are. -/
def Cursor.tagHandle (c : Cursor) : List Char × Cursor :=
  let (word, behind) := (c.skip 1).span isWordChar
  if behind.startsWith '!' then ('!' :: word ++ ['!'], behind.skip 1) else ('!' :: word, behind)

/-- Is this a handle with a mark at either end? -/
def isFullHandle (handle : List Char) : Bool :=
  1 < handle.length && handle.getLast? == some '!'

def asciiBytes (s : List Char) : List UInt8 := s.flatMap String.utf8EncodeChar

/-- A handle and a suffix at the cursor. -/
def Cursor.shortTag? (c : Cursor) : Option (Token × Cursor) := do
  let (handle, behind) := c.tagHandle
  let (bytes, c) ← behind.tagBytes? false
  if isFullHandle handle then
    if bytes.isEmpty then none else some (.tag handle bytes, c)
  else
    let suffix := asciiBytes (handle.drop 1) ++ bytes
    if suffix.isEmpty then some (.tag [] (asciiBytes ['!']), c) else some (.tag ['!'] suffix, c)

/-- A tag between angle brackets at the cursor. -/
def Cursor.verbatimTag? (c : Cursor) : Option (Token × Cursor) := do
  let (bytes, c) ← (c.skip 2).tagBytes? true
  if bytes.isEmpty || !c.startsWith '>' then none else some (.tag [] bytes, c.skip 1)

/-- The tag at the cursor, which stands on its mark; between brackets (`flow`) a comma may follow.
-/
def Cursor.tag? (c : Cursor) (flow : Bool) : Option (Token × Cursor) := do
  let (tag, c) ← if (c.skip 1).startsWith '<' then c.verbatimTag? else c.shortTag?
  if c.gapAt 0 || (flow && c.startsWith ',') then some (tag, c) else none

/-! ## Directives -/

/-- A number of at most nine digits at the cursor. -/
def Cursor.versionNumber? (c : Cursor) : Option (Nat × Cursor) := do
  let (digits, behind) := c.span isDigit
  if 9 < digits.length then none else some (← decimalValue? digits, behind)

def Cursor.versionDirective? (c : Cursor) : Option (Token × Cursor) := do
  let (major, c) ← (c.skipWhile isWhite).versionNumber?
  if c.startsWith '.' then
    let (minor, c) ← (c.skip 1).versionNumber?
    some (.versionDirective major minor, c)
  else none

/-- The handle that a directive declares, and what it stands for. -/
def Cursor.tagDirective? (c : Cursor) : Option (Token × Cursor) := do
  let c := c.skipWhile isWhite
  if !c.startsWith '!' then none
  else
    let (handle, c) := c.tagHandle
    if !(isFullHandle handle || handle = ['!']) || !c.sees isWhite then none
    else
      let (bytes, c) ← (c.skipWhile isWhite).tagBytes? true
      if bytes.isEmpty || !c.gapAt 0 then none else some (.tagDirective handle bytes, c)

/-- The directive at the cursor, which stands on its mark, and what is behind its line. -/
def Cursor.directive? (c : Cursor) : Option (Token × Cursor) := do
  let (name, c) := (c.skip 1).span isWordChar
  if !c.gapAt 0 then none
  else
    let (token, c) ←
      if name = "YAML".toList then c.versionDirective?
      else if name = "TAG".toList then c.tagDirective?
      else none
    some (token, ← c.skipLineEnd?)

end LoginGate.Yaml
