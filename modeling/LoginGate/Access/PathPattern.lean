import LoginGate.Text.Pieces

/-!
# Rule paths as Lua patterns

A rule path is read from left to right as tokens: `{**}` stands for any text, `{*}` for a
non-empty text without `/`, a bare `*` for any text, and every other character for itself. 
`compile` writes the tokens as a Lua pattern.  The pattern is anchored at both ends; after a bare
`*`, or in a path that starts with `^`, it is anchored at the start only.
-/

namespace LoginGate.Access

/-- One token of a rule path. -/
inductive PathToken where
  | anyText
  | oneSegment
  | bareStar
  | literal (c : Char)
  deriving DecidableEq, Repr

/-- The tokens of a path. -/
def PathToken.ofChars : List Char → List PathToken
  | '{' :: '*' :: '*' :: '}' :: rest => anyText :: ofChars rest
  | '{' :: '*' :: '}' :: rest => oneSegment :: ofChars rest
  | '*' :: rest => bareStar :: ofChars rest
  | c :: rest => literal c :: ofChars rest
  | [] => []

/-- The characters that have a meaning of their own inside a Lua pattern.  `*` never stands for
itself, and `^` and `$` mean something at the ends of a pattern only. -/
def isMagic (c : Char) : Bool :=
  c = '%' || c = '-' || c = '.' || c = '+' || c = '?' || c = '(' || c = ')' || c = '[' || c = ']'

/-- What a token matches, as part of a pattern. -/
def PathToken.pattern : PathToken → List Char
  | anyText => ['.', '*']
  | oneSegment => ['[', '^', '/', ']', '+']
  | bareStar => ['.', '*']
  | literal c => if isMagic c then ['%', c] else [c]

def compileChars (path : List Char) : List Char :=
  let tokens := PathToken.ofChars path
  let body := tokens.flatMap PathToken.pattern
  if path.head? = some '^' then body
  else if PathToken.bareStar ∈ tokens then '^' :: body
  else '^' :: body ++ ['$']

/-- The Lua pattern of a rule path. -/
def compile (path : String) : String := String.ofList (compileChars path.toList)

end LoginGate.Access
