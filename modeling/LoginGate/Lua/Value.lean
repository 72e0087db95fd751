import LoginGate.Lua.Token

/-!
# Values of Lua expressions

`Value.ofTokens?` reads the expressions that the script's open values are made of: strings, truth
values and table constructors whose keys are strings.  `boundValue?` gives the value that a program
binds a name to before it does anything else.
-/

namespace LoginGate.Lua

/-- A value.  The items of a table are its values without a key; its fields are in the order in
which they are written, and the last one for a key counts. -/
inductive Value where
  | text (bytes : List UInt8)
  | truth (b : Bool)
  | table (items : List Value) (fields : List (List UInt8 × Value))
  deriving Repr, Inhabited

/-- The words that are not names. -/
def keywords : List String :=
  ["and", "break", "do", "else", "elseif", "end", "false", "for", "function", "if", "in", "local",
    "nil", "not", "or", "repeat", "return", "then", "true", "until", "while"]

/-- The key that a name is. -/
def nameKey? (name : List Char) : Option (List UInt8) :=
  if keywords.contains (String.ofList name) then none
  else some (name.flatMap String.utf8EncodeChar)

/-- A table with one more item or field at its start. -/
def Value.withEntry (t : Value) (key : Option (List UInt8)) (v : Value) : Value :=
  match t with
  | .table items fields => match key with
    | none => .table (v :: items) fields
    | some key => .table items ((key, v) :: fields)
  | other => other

/-- The key of an entry, if it has one, and what follows its equals sign. -/
def entryKey? : List Token → Option (Option (List UInt8) × List Token)
  | .symbol ['['] :: .text key :: .symbol [']'] :: .symbol ['='] :: rest => some (some key, rest)
  | .symbol ['['] :: _ => none
  | .word name :: .symbol ['='] :: rest => (nameKey? name).map fun key => (some key, rest)
  | rest => some (none, rest)

mutual

/-- The value at the start of some tokens, and what follows.  The fuel is greater than the number of
tokens. -/
def Value.read? : Nat → List Token → Option (Value × List Token)
  | fuel + 1, .symbol ['{'] :: rest => Value.entries? fuel rest
  | _ + 1, .text bytes :: rest => some (.text bytes, rest)
  | _ + 1, .word ['t', 'r', 'u', 'e'] :: rest => some (.truth true, rest)
  | _ + 1, .word ['f', 'a', 'l', 's', 'e'] :: rest => some (.truth false, rest)
  | _, _ => none

/-- The entries of a table up to its closing brace, as a table, and what follows. -/
def Value.entries? : Nat → List Token → Option (Value × List Token)
  | _ + 1, .symbol ['}'] :: rest => some (.table [] [], rest)
  | fuel + 1, tokens => do
    let (key, rest) ← entryKey? tokens
    let (v, rest) ← Value.read? fuel rest
    match rest with
    | .symbol ['}'] :: rest => some ((Value.table [] []).withEntry key v, rest)
    | .symbol [separator] :: rest =>
      if separator = ',' ∨ separator = ';' then do
        let (others, rest) ← Value.entries? fuel rest
        return (others.withEntry key v, rest)
      else none
    | _ => none
  | _, _ => none

end

/-- The value that all of some tokens make. -/
def Value.ofTokens? (tokens : List Token) : Option Value := do
  match ← Value.read? (tokens.length + 1) tokens with
  | (v, []) => some v
  | _ => none

def Value.ofText? (s : String) : Option Value := tokens? s.toList >>= Value.ofTokens?

/-- The names that a program binds at its start, by one `local name = value` after another, with
their values.  The fuel is greater than the number of tokens. -/
def bindings : Nat → List Token → List (List Char × Value)
  | fuel + 1, .word ['l', 'o', 'c', 'a', 'l'] :: .word name :: .symbol ['='] :: rest =>
    match Value.read? fuel rest with
    | some (v, rest) => (name, v) :: bindings fuel rest
    | none => []
  | _, _ => []

/-- The value that a program binds a name to at its start. -/
def boundValue? (program name : String) : Option Value := do
  let tokens ← tokens? program.toList
  (bindings (tokens.length + 1) tokens).lookup name.toList

end LoginGate.Lua
