import LoginGate.Json.Basic

/-!
# Reading JSON

Two machines run side by side over the characters, so reading is one fold:

    Partial.next?  cuts them into tokens: brackets, commas, colons, quoted texts and words
    step?          takes one token into account, on a stack of the open lists and objects
    read?          feeds all characters and expects one finished value at the end

Of several members with one key the last counts.  Lists and objects may be nested `limit` deep.
-/

namespace LoginGate.Json

open LoginGate.Text LoginGate.Number

/-! ## Numbers -/

/-- Digits taken while the significand stays below `2 ^ 64`; each further digit of a whole part
raises the exponent instead. -/
structure Significand where
  digits : Nat
  exponent : Int
  deriving DecidableEq, Repr

def Significand.limit : Nat := twoTo 64 - 1

/-- The digits of a whole part; after the first that does not fit, all are counted only. -/
def Significand.ofWhole : Nat → List Char → Significand
  | acc, [] => ⟨acc, 0⟩
  | acc, c :: rest =>
    let next := acc * 10 + (c.toNat - 48)
    if Significand.limit < next then ⟨acc, (rest.length : Int) + 1⟩
    else Significand.ofWhole next rest

/-- The digits after a point; the first that does not fit and all after it are dropped. -/
def Significand.withFraction (s : Significand) : List Char → Significand
  | [] => s
  | c :: rest =>
    let next := s.digits * 10 + (c.toNat - 48)
    if Significand.limit < next then s
    else Significand.withFraction ⟨next, s.exponent - 1⟩ rest

/-- The significand scaled by one power of ten, rounding after each step: whole numbers are rounded
first, then multiplied or divided; below `10 ^ (-308)` it takes one division for each `10 ^ 308`.
None beyond the largest finite number. -/
def scale (x : Binary64) (exponent : Int) : Option Binary64 :=
  if exponent.natAbs ≤ 308 then do
    let power ← Binary64.powerOfTen? exponent.natAbs
    if 0 ≤ exponent then x.mul power else x.div power
  else if x.isZero then some x
  else if 0 ≤ exponent then none
  else do
    let power ← Binary64.powerOfTen? 308
    let y ← x.div power
    scale y (exponent + 308)
termination_by exponent.natAbs
decreasing_by omega

/-- The number of a significand and a written exponent. -/
def Significand.real? (s : Significand) (negative : Bool) (written : Int) : Option Number := do
  let x ← Binary64.ofNat? s.digits
  let y ← scale x (s.exponent + written)
  some (.real { y with negative := negative })

def spanDigits (s : List Char) : List Char × List Char := (s.takeWhile isDigit, s.dropWhile isDigit)

/-- The value of a written exponent: an optional sign and digits, nothing else. -/
def exponent? : List Char → Option Int
  | '+' :: rest => (decimalValue? rest).map fun n => (n : Int)
  | '-' :: rest => (decimalValue? rest).map fun n => -(n : Int)
  | rest => (decimalValue? rest).map fun n => (n : Int)

/-- A number from its whole part and what follows it, without the sign. -/
def unsigned? (negative : Bool) (whole rest : List Char) : Option Number :=
  let s := Significand.ofWhole 0 whole
  match rest with
  | [] =>
    if s.exponent ≠ 0 then s.real? negative 0
    else if !negative then some (.whole s.digits)
    else if s.digits = 0 ∨ twoTo 63 < s.digits then s.real? true 0
    else some (.whole (-(s.digits : Int)))
  | '.' :: more =>
    let (fraction, tail) := spanDigits more
    if fraction.isEmpty then none
    else
      let s := s.withFraction fraction
      match tail with
      | [] => s.real? negative 0
      | e :: written =>
        if e = 'e' ∨ e = 'E' then do s.real? negative (← exponent? written) else none
  | e :: written =>
    if e = 'e' ∨ e = 'E' then do s.real? negative (← exponent? written) else none

/-- The number that a word writes: an optional minus sign, a whole part without needless zeros, an
optional fraction, an optional exponent. -/
def number? (word : List Char) : Option Number :=
  let (negative, s) := match word with
    | '-' :: rest => (true, rest)
    | rest => (false, rest)
  match spanDigits s with
  | ([], _) => none
  | ('0' :: _ :: _, _) => none
  | (whole, rest) => unsigned? negative whole rest

/-! ## Tokens -/

inductive Token where
  | openList
  | closeList
  | openObject
  | closeObject
  | comma
  | colon
  | text (value : String)
  | word (letters : List Char)
  deriving DecidableEq, Repr

/-- What the characters since the last finished token belong to.  Letters are in reverse order;
`hex` holds the digits of an escape read so far and the first half of a pair, if there was one;
`half` and `halfEscaped` wait for the escape of the second half. -/
inductive Partial where
  | nothing
  | word (letters : List Char)
  | quoted (letters : List Char)
  | escaped (letters : List Char)
  | hex (letters : List Char) (first : Option Nat) (value : Nat) (count : Nat)
  | half (letters : List Char) (first : Nat)
  | halfEscaped (letters : List Char) (first : Nat)
  deriving DecidableEq, Repr

/-- The token of a character that is one by itself. -/
def mark? (c : Char) : Option Token :=
  if c = '[' then some .openList
  else if c = ']' then some .closeList
  else if c = '{' then some .openObject
  else if c = '}' then some .closeObject
  else if c = ',' then some .comma
  else if c = ':' then some .colon
  else none

/-- Is this one of the four characters that may stand between tokens? -/
def isSpace (c : Char) : Bool := c = ' ' || c = '\t' || c = '\n' || c = '\r'

def simpleEscape? (c : Char) : Option Char :=
  if c = '"' ∨ c = '\\' ∨ c = '/' then some c
  else if c = 'b' then some (Char.ofNat 8)
  else if c = 'f' then some (Char.ofNat 12)
  else if c = 'n' then some '\n'
  else if c = 'r' then some '\r'
  else if c = 't' then some '\t'
  else none

/-- Is this the first half of a pair? -/
def isHighHalf (n : Nat) : Bool := 0xD800 ≤ n && n < 0xDC00

def isLowHalf (n : Nat) : Bool := 0xDC00 ≤ n && n < 0xE000

/-- A finished escape of four digits: a character, or the first half of a pair. -/
def Partial.escape? (letters : List Char) (first : Option Nat) (n : Nat) : Option Partial :=
  match first with
  | none =>
    if isHighHalf n then some (.half letters n)
    else if isLowHalf n then none
    else some (.quoted (Char.ofNat n :: letters))
  | some high =>
    if isLowHalf n then
      some (.quoted (Char.ofNat (0x10000 + (high - 0xD800) * 1024 + (n - 0xDC00)) :: letters))
    else none

/-- One character: what it belongs to with those before it, and the tokens that it ends. -/
def Partial.next? (p : Partial) (c : Char) : Option (Partial × List Token) :=
  match p with
  | .nothing =>
    if isSpace c then some (.nothing, [])
    else if c = '"' then some (.quoted [], [])
    else match mark? c with
      | some token => some (.nothing, [token])
      | none => some (.word [c], [])
  | .word letters =>
    let word := Token.word letters.reverse
    if isSpace c then some (.nothing, [word])
    else if c = '"' then some (.quoted [], [word])
    else match mark? c with
      | some token => some (.nothing, [word, token])
      | none => some (.word (c :: letters), [])
  | .quoted letters =>
    if c = '"' then some (.nothing, [.text (String.ofList letters.reverse)])
    else if c = '\\' then some (.escaped letters, [])
    else if c.toNat < 32 then none
    else some (.quoted (c :: letters), [])
  | .escaped letters =>
    if c = 'u' then some (.hex letters none 0 0, [])
    else (simpleEscape? c).map fun e => (.quoted (e :: letters), [])
  | .hex letters first value count => do
    let n := value * 16 + (← hexValue? c)
    if count < 3 then some (.hex letters first n (count + 1), [])
    else (Partial.escape? letters first n).map fun p => (p, [])
  | .half letters first => if c = '\\' then some (.halfEscaped letters first, []) else none
  | .halfEscaped letters first => if c = 'u' then some (.hex letters (some first) 0 0, []) else none

/-- The tokens that the end of the text ends. -/
def Partial.finish? : Partial → Option (List Token)
  | .nothing => some []
  | .word letters => some [.word letters.reverse]
  | _ => none

/-! ## Values -/

/-- A list or an object that is not closed yet; items in reverse order. -/
inductive Frame where
  | list (items : List Json)
  | object (members : KeyMap Json) (key : String)

inductive Awaiting where
  | value
  | itemOrEnd
  | keyOrEnd
  | key (members : KeyMap Json)
  | colon (members : KeyMap Json) (key : String)
  | commaOrEnd (last : Json)

/-- The open lists and objects, innermost first, and what may come next. -/
structure State where
  frames : List Frame
  awaiting : Awaiting

def wordValue? (letters : List Char) : Option Json :=
  if letters = "null".toList then some .null
  else if letters = "true".toList then some (.bool true)
  else if letters = "false".toList then some (.bool false)
  else (number? letters).map .number

/-- A value begins: a scalar is finished at once, a bracket opens a frame. -/
def beginValue? (limit : Nat) (frames : List Frame) : Token → Option State
  | .openList => if frames.length < limit then some ⟨.list [] :: frames, .itemOrEnd⟩ else none
  | .openObject =>
    if frames.length < limit then some ⟨.object [] "" :: frames, .keyOrEnd⟩ else none
  | .text value => some ⟨frames, .commaOrEnd (.text value)⟩
  | .word letters => (wordValue? letters).map fun value => ⟨frames, .commaOrEnd value⟩
  | _ => none

def step? (limit : Nat) (state : State) (token : Token) : Option State :=
  match state.awaiting, state.frames, token with
  | .value, frames, token => beginValue? limit frames token
  | .itemOrEnd, .list _ :: frames, .closeList => some ⟨frames, .commaOrEnd (.list [])⟩
  | .itemOrEnd, frames, token => beginValue? limit frames token
  | .keyOrEnd, .object _ _ :: frames, .closeObject => some ⟨frames, .commaOrEnd (.object [])⟩
  | .keyOrEnd, .object _ _ :: frames, .text key => some ⟨frames, .colon [] key⟩
  | .key members, frames, .text key => some ⟨frames, .colon members key⟩
  | .colon members key, frames, .colon => some ⟨.object members key :: frames, .value⟩
  | .commaOrEnd last, .list items :: frames, .comma => some ⟨.list (last :: items) :: frames, .value⟩
  | .commaOrEnd last, .list items :: frames, .closeList =>
    some ⟨frames, .commaOrEnd (.list (last :: items).reverse)⟩
  | .commaOrEnd last, .object members key :: frames, .comma =>
    some ⟨frames, .key (KeyMap.insert key last members)⟩
  | .commaOrEnd last, .object members key :: frames, .closeObject =>
    some ⟨frames, .commaOrEnd (.object (KeyMap.insert key last members))⟩
  | _, _, _ => none

def State.value? : State → Option Json
  | ⟨[], .commaOrEnd value⟩ => some value
  | _ => none

def feed? (limit : Nat) (now : Partial × State) (c : Char) : Option (Partial × State) := do
  let (p, tokens) ← now.1.next? c
  let state ← tokens.foldlM (step? limit) now.2
  some (p, state)

/-- The value that a text writes, with lists and objects nested at most `limit` deep. -/
def readChars? (limit : Nat) (s : List Char) : Option Json := do
  let (p, state) ← s.foldlM (feed? limit) (.nothing, ⟨[], .value⟩)
  let state ← (← p.finish?).foldlM (step? limit) state
  state.value?

def read? (limit : Nat) (s : String) : Option Json := readChars? limit s.toList

end LoginGate.Json
