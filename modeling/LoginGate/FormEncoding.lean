import LoginGate.KeyMap
import LoginGate.Text.Numeral

/-!
# Values in query strings

`encode` is the form encoding of a text: letters, digits and `* - . _` stay, a space becomes `+`,
and every other byte of the UTF-8 form becomes `%` and two capital hexadecimal digits.  Login
parameters are encoded value by value and listed in the order of their keys.
-/

namespace LoginGate.FormEncoding

open LoginGate.Text

/-- The bytes that stand for themselves. -/
def isPlainByte (b : UInt8) : Bool :=
  let n := b.toNat
  (48 ≤ n && n ≤ 57) || (65 ≤ n && n ≤ 90) || (97 ≤ n && n ≤ 122) ||
  n == 42 || n == 45 || n == 46 || n == 95

/-- A byte in a query string. -/
def encodeByte (b : UInt8) : List Char :=
  if isPlainByte b then [Char.ofNat b.toNat]
  else if b = 32 then ['+']
  else ['%', hexDigitUpper (b.toNat / 16), hexDigitUpper (b.toNat % 16)]

def encodeChars (s : List Char) : List Char :=
  (s.flatMap String.utf8EncodeChar).flatMap encodeByte

/-- A text in a query string. -/
def encode (s : String) : String := String.ofList (encodeChars s.toList)

/-- Parameters with their values encoded, by key; the last value given for a key counts. -/
def encodeParameters (pairs : List (String × String)) : KeyMap String :=
  KeyMap.ofPairs (pairs.map fun pair => (pair.1, encode pair.2))

/-- A target that may be absent; absent is empty. -/
def encodeOptional : Option String → String
  | some s => encode s
  | none => ""

end LoginGate.FormEncoding
