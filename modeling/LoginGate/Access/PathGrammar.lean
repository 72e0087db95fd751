import LoginGate.Access.PathPattern
import LoginGate.Text.Showable

/-!
# Which rule paths are accepted

`check` accepts a path that starts with `^` as it is.  Any other path starts with `/`, and is a
plain path, a plain path with one `*` at its end, or a template whose segments are `{*}`, `{**}` or
literal, the last one possibly a literal followed by `{**}`.  The first fault from the left is the
one reported.
-/

namespace LoginGate.Access

open LoginGate.Text

/-- What is wrong with a path. -/
inductive PathFault where
  | notRooted
  | starMisplaced
  | strayBrace
  | operatorAfterAny
  | badSegment (segment : String)
  deriving DecidableEq, Repr

/-- The characters of a literal segment: what a URI allows there, the star excepted. -/
def isSegmentChar (c : Char) : Bool :=
  let n := c.toNat
  (48 ≤ n && n ≤ 57) || (65 ≤ n && n ≤ 90) || (97 ≤ n && n ≤ 122) ||
  c ∈ ['-', '.', '_', '~', '%', '!', '$', '&', '\'', '(', ')', '+', ',', ';', ':', '@', '=']

/-- Is this one of the two characters that delimit an operator? -/
def isBrace (c : Char) : Bool := c = '{' || c = '}'

/-- Is there a star outside of braces?  `inside` says whether a brace is open. -/
def hasBareStarFrom : Bool → List Char → Bool
  | _, [] => false
  | inside, c :: rest =>
    if c = '{' then hasBareStarFrom true rest
    else if c = '}' then hasBareStarFrom false rest
    else if c = '*' && !inside then true
    else hasBareStarFrom inside rest

def hasBareStar (path : List Char) : Bool := hasBareStarFrom false path

/-- The parts of a path between its slashes; slashes at the ends do not count. -/
def segments (path : List Char) : List (List Char) :=
  match stripWhile (· == '/') path with
  | [] => []
  | inner => pieces '/' inner

/-- A literal has at least one character, all of them segment characters.  The fault names the
whole segment. -/
def checkLiteral (segment literal : List Char) : Except PathFault Unit :=
  if !literal.isEmpty && literal.all isSegmentChar then pure ()
  else throw (.badSegment (String.ofList segment))

/-- Every non-empty segment is a literal. -/
def checkLiterals (path : List Char) : Except PathFault Unit :=
  ((segments path).filter fun segment => !segment.isEmpty).forM fun segment =>
    checkLiteral segment segment

/-- The operator for one segment. -/
def oneOperator : List Char := ['{', '*', '}']

/-- The operator for any text. -/
def anyOperator : List Char := ['{', '*', '*', '}']

/-- The segments of a template from left to right.  `sawOne` and `sawAny` say which operators
stood before. -/
def checkSegments (sawOne sawAny : Bool) : List (List Char) → Except PathFault Unit
  | [] => pure ()
  | segment :: rest =>
    if segment = oneOperator then
      if sawAny then throw .operatorAfterAny else checkSegments true sawAny rest
    else if segment = anyOperator then
      if sawAny then throw .operatorAfterAny else checkSegments sawOne true rest
    else match dropSuffix? anyOperator segment with
      | some literal =>
        if literal.any isBrace then throw .strayBrace
        else do
          checkLiteral segment literal
          if !rest.isEmpty || sawOne || sawAny then throw .operatorAfterAny
          checkSegments sawOne true rest
      | none =>
        if segment.any isBrace then throw .strayBrace
        else do
          checkLiteral segment segment
          checkSegments sawOne sawAny rest

def checkChars (path : List Char) : Except PathFault Unit :=
  if path.head? = some '^' then pure ()
  else if path.head? ≠ some '/' then throw .notRooted
  else
    let braces := path.any isBrace
    if hasBareStar path then
      if braces then throw .strayBrace
      else if 1 < path.count '*' || path.getLast? ≠ some '*' then throw .starMisplaced
      else checkLiterals (dropEndWhile (· == '*') path)
    else if braces then checkSegments false false (segments path)
    else checkLiterals path

/-- The fault of a path, if it has one. -/
def check (path : String) : Except PathFault Unit := checkChars path.toList

def PathFault.message : PathFault → String
  | notRooted => "must start with '/'"
  | starMisplaced => "'*' must appear only once, at the end"
  | strayBrace => "'\x7b' or '\x7d' outside a \x7b*\x7d or \x7b**\x7d template"
  | operatorAfterAny => "\x7b**\x7d must be the last operator"
  | badSegment segment =>
    "segment " ++ shown segment ++ " contains characters outside a path literal"

end LoginGate.Access
