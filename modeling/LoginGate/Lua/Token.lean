import LoginGate.Text.Numeral

/-!
# Tokens of a Lua program

A scanner takes a program character by character: `Scanner.step` is one character, and `tokens?`
gives the tokens of a whole text.  As a scanner is a fold, what it makes of two texts one after the
other is what it makes of the second when it starts where the first has left it (`run_append`).

Texts in long brackets are not read, neither as strings nor as comments.
-/

namespace LoginGate.Lua

open LoginGate.Text

/-- A token; strings are given by the bytes that they denote. -/
inductive Token where
  | word (name : List Char)
  | number (numeral : List Char)
  | text (bytes : List UInt8)
  | symbol (s : List Char)
  deriving DecidableEq, Repr

/-! ## Inside a string -/

/-- Where a scanner is inside a string. -/
inductive StringPlace where
  | plain
  /-- After a backslash. -/
  | escape
  /-- After a backslash and `count` digits, which make `value`. -/
  | code (count value : Nat)
  /-- After a backslash and the first character `half` of what may be a line break of two. -/
  | broken (half : Char)
  deriving DecidableEq, Repr

/-- What one character does to a string: after some more bytes it ends, or it goes on. -/
inductive StringStep where
  | closed (bytes : List UInt8)
  | more (bytes : List UInt8) (place : StringPlace)
  deriving DecidableEq, Repr

/-- The same with a byte in front. -/
def StringStep.cons (b : UInt8) : StringStep → StringStep
  | closed bytes => closed (b :: bytes)
  | more bytes place => more (b :: bytes) place

def isLineEnd (c : Char) : Bool := c = '\n' || c = '\r'

/-- The byte that a letter behind a backslash denotes. -/
def escapedLetter? (c : Char) : Option UInt8 :=
  if c = 'a' then some 7
  else if c = 'b' then some 8
  else if c = 't' then some 9
  else if c = 'n' then some 10
  else if c = 'v' then some 11
  else if c = 'f' then some 12
  else if c = 'r' then some 13
  else none

namespace StringPlace

/-- A character that stands for itself, or ends the string. -/
def plainStep (delimiter c : Char) : Option StringStep :=
  if c = delimiter then some (.closed [])
  else if c = '\\' then some (.more [] escape)
  else if isLineEnd c then none
  else some (.more (String.utf8EncodeChar c) plain)

def step (delimiter : Char) (place : StringPlace) (c : Char) : Option StringStep :=
  match place with
  | plain => plainStep delimiter c
  | escape =>
    if isDigit c then some (.more [] (code 1 (c.toNat - 48)))
    else if isLineEnd c then some (.more [10] (broken c))
    else match escapedLetter? c with
      | some b => some (.more [b] plain)
      | none => some (.more (String.utf8EncodeChar c) plain)
  | code count value =>
    if isDigit c then
      let value := value * 10 + (c.toNat - 48)
      if count < 2 then some (.more [] (code (count + 1) value))
      else if value < 256 then some (.more [UInt8.ofNat value] plain)
      else none
    else (plainStep delimiter c).map (StringStep.cons (UInt8.ofNat value))
  | broken half =>
    if isLineEnd c ∧ c ≠ half then some (.more [] plain) else plainStep delimiter c

end StringPlace

/-- The bytes that the rest of a string denotes, and what follows the string. -/
def stringFrom? (delimiter : Char) (place : StringPlace) :
    List Char → Option (List UInt8 × List Char)
  | [] => none
  | c :: rest => match place.step delimiter c with
    | none => none
    | some (.closed bytes) => some (bytes, rest)
    | some (.more bytes place) =>
      (stringFrom? delimiter place rest).map fun (more, rest) => (bytes ++ more, rest)

/-- The bytes that the string at the start of a text denotes, and what follows the string. -/
def string? : List Char → Option (List UInt8 × List Char)
  | '"' :: rest => stringFrom? '"' .plain rest
  | '\'' :: rest => stringFrom? '\'' .plain rest
  | _ => none

/-! ## Between strings -/

inductive NumeralPlace where
  | digits
  /-- After the letter of an exponent. -/
  | exponent
  | tail
  deriving DecidableEq, Repr

inductive Mode where
  | between
  | word (s : List Char)
  | number (s : List Char) (place : NumeralPlace)
  | symbol (s : List Char)
  | text (delimiter : Char) (bytes : List UInt8) (place : StringPlace)
  /-- In a comment; `fresh` says that only its hyphens were read. -/
  | comment (fresh : Bool)
  deriving DecidableEq, Repr

/-- Blank characters between tokens. -/
def isGap (c : Char) : Bool := c = ' ' || (9 ≤ c.toNat && c.toNat ≤ 13)

def startsWord (c : Char) : Bool := c.isAlpha || c = '_'

def isWordChar (c : Char) : Bool := startsWord c || isDigit c

/-- The place in a numeral after one more character, if it belongs to the numeral. -/
def NumeralPlace.step (place : NumeralPlace) (c : Char) : Option NumeralPlace :=
  match place with
  | digits =>
    if isDigit c || c = '.' then some digits
    else if c = 'e' || c = 'E' then some exponent
    else if isWordChar c then some tail
    else none
  | exponent => if c = '+' || c = '-' || isWordChar c then some tail else none
  | tail => if isWordChar c then some tail else none

/-- Symbols of more than one character. -/
def longSymbols : List (List Char) :=
  [['=', '='], ['<', '='], ['>', '='], ['~', '='], ['.', '.'], ['.', '.', '.']]

/-- The mode at the first character of a token, or between tokens. -/
def Mode.start (c : Char) : Mode :=
  if isGap c then between
  else if c = '"' || c = '\'' then text c [] .plain
  else if isDigit c then number [c] .digits
  else if startsWord c then word [c]
  else symbol [c]

/-- The token of a mode in which the text may end; none inside a string. -/
def Mode.last? : Mode → Option (List Token)
  | between => some []
  | word s => some [.word s]
  | number s _ => some [.number s]
  | symbol s => some [.symbol s]
  | comment _ => some []
  | text .. => none

/-- The tokens that were read, and the mode at the next character. -/
structure Scanner where
  tokens : List Token := []
  mode : Mode := .between
  deriving DecidableEq, Repr

namespace Scanner

def enter (s : Scanner) (mode : Mode) : Scanner := { s with mode }

/-- The scanner after a token that ends before `c`. -/
def emit (s : Scanner) (t : Token) (c : Char) : Scanner := ⟨s.tokens ++ [t], .start c⟩

/-- One character after the start of a symbol. -/
def symbolStep (s : Scanner) (symbol : List Char) (c : Char) : Option Scanner :=
  if symbol = ['['] ∧ (c = '[' ∨ c = '=') then none
  else if symbol = ['-'] ∧ c = '-' then some (s.enter (.comment true))
  else if symbol = ['.'] ∧ isDigit c then some (s.enter (.number ['.', c] .digits))
  else if longSymbols.contains (symbol ++ [c]) then some (s.enter (.symbol (symbol ++ [c])))
  else some (s.emit (.symbol symbol) c)

def step (s : Scanner) (c : Char) : Option Scanner :=
  match s.mode with
  | .between => some (s.enter (.start c))
  | .word name =>
    if isWordChar c then some (s.enter (.word (name ++ [c]))) else some (s.emit (.word name) c)
  | .number numeral place => match place.step c with
    | some place => some (s.enter (.number (numeral ++ [c]) place))
    | none => some (s.emit (.number numeral) c)
  | .symbol symbol => s.symbolStep symbol c
  | .text delimiter bytes place => match place.step delimiter c with
    | some (.closed more) => some ⟨s.tokens ++ [.text (bytes ++ more)], .between⟩
    | some (.more more place) => some (s.enter (.text delimiter (bytes ++ more) place))
    | none => none
  | .comment fresh =>
    if fresh ∧ c = '[' then none
    else if isLineEnd c then some (s.enter .between)
    else some (s.enter (.comment false))

def run (s : Scanner) (text : List Char) : Option Scanner := text.foldlM step s

def finish (s : Scanner) : Option (List Token) := s.mode.last?.map (s.tokens ++ ·)

theorem run_cons {s t : Scanner} {c : Char} (h : s.step c = some t) (rest : List Char) :
    s.run (c :: rest) = t.run rest := by
  rw [run, List.foldlM_cons, h]
  rfl

theorem run_append (s : Scanner) (one other : List Char) :
    s.run (one ++ other) = s.run one >>= fun t => t.run other := by
  simp only [run, List.foldlM_append]

/-- A scanner with more tokens before those that it has read. -/
def withTokens (before : List Token) (s : Scanner) : Scanner := ⟨before ++ s.tokens, s.mode⟩

theorem step_withTokens (before : List Token) (s : Scanner) (c : Char) :
    (withTokens before s).step c = (s.step c).map (withTokens before) := by
  obtain ⟨tokens, mode⟩ := s
  cases mode with
  | between => rfl
  | word name =>
    simp only [step, withTokens, enter, emit]
    split <;> simp [withTokens]
  | number numeral place =>
    simp only [step, withTokens, enter, emit]
    split <;> simp [withTokens]
  | symbol symbol =>
    simp only [step, withTokens, symbolStep, enter, emit]
    repeat' split
    all_goals simp [withTokens]
  | text delimiter bytes place =>
    simp only [step, withTokens, enter]
    split <;> simp [withTokens]
  | comment fresh =>
    simp only [step, withTokens, enter]
    repeat' split
    all_goals simp [withTokens]

/-- What was read before does not matter to a scanner. -/
theorem run_withTokens (before : List Token) (s : Scanner) (text : List Char) :
    (withTokens before s).run text = (s.run text).map (withTokens before) := by
  induction text generalizing s with
  | nil => rfl
  | cons c text ih =>
    rw [run, run, List.foldlM_cons, List.foldlM_cons, step_withTokens]
    cases s.step c with
    | none => rfl
    | some t => exact ih t

end Scanner

def tokens? (text : List Char) : Option (List Token) := do (← Scanner.run {} text).finish

end LoginGate.Lua
