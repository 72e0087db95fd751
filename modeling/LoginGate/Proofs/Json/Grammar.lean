import LoginGate.Proofs.Json.Written
import LoginGate.Proofs.Text.Runs

/-!
# The grammar of JSON

What a JSON text is, apart from how one is read.  A tree is grammatical by its type; it is written
as tokens, with blank space before, between and behind them.

    Writes t.lexemes s      the text `s` writes the tree `t`
    t.value? room           the value of `t`, with lists and objects nested at most `room` deep

A tree has no value if it is nested too deep, if one of its numbers is beyond the finite ones, or if
half of a pair of escapes stands alone in one of its texts (`Tree.HasValue`).
-/

namespace LoginGate.Json

open LoginGate.Text LoginGate.Number

/-! ## Quoted texts -/

/-- What is written in quotes for one character, or for half of one. -/
inductive Piece where
  /-- The character itself. -/
  | plain (c : Char) (h : c ≠ '"' ∧ c ≠ '\\' ∧ 32 ≤ c.toNat)
  /-- A backslash and a letter. -/
  | escape (letter c : Char) (h : simpleEscape? letter = some c)
  /-- A backslash, `u` and four hexadecimal digits. -/
  | code (digits : List Char) (n : Nat) (h : digits.length = 4 ∧ numeral? 16 digits = some n)

def Piece.written : Piece → List Char
  | plain c _ => [c]
  | escape letter _ _ => ['\\', letter]
  | code digits _ _ => '\\' :: 'u' :: digits

/-- The text that pieces stand for.  The two halves of a pair stand together. -/
def Piece.text? : List Piece → Option (List Char)
  | [] => some []
  | .plain c _ :: rest => (Piece.text? rest).map (c :: ·)
  | .escape _ c _ :: rest => (Piece.text? rest).map (c :: ·)
  | .code _ n _ :: rest =>
    if isHighHalf n then
      match rest with
      | .code _ m _ :: rest =>
        if isLowHalf m then
          (Piece.text? rest).map (Char.ofNat (0x10000 + (n - 0xD800) * 1024 + (m - 0xDC00)) :: ·)
        else none
      | _ => none
    else if isLowHalf n then none
    else (Piece.text? rest).map (Char.ofNat n :: ·)

/-! ## Numerals -/

def IsDigits (s : List Char) : Prop := s ≠ [] ∧ ∀ c ∈ s, isDigit c = true

instance (s : List Char) : Decidable (IsDigits s) :=
  decidable_of_iff (s ≠ [] ∧ s.all isDigit = true) (and_congr_right fun _ => List.all_eq_true)

/-- The power of ten behind a number. -/
structure Exponent where
  letter : Char
  sign : List Char
  digits : List Char
  isLetter : letter = 'e' ∨ letter = 'E'
  isSign : sign = [] ∨ sign = ['+'] ∨ sign = ['-']
  isDigits : IsDigits digits

def Exponent.written (e : Exponent) : List Char := e.letter :: (e.sign ++ e.digits)

def Exponent.value (e : Exponent) : Int :=
  if e.sign = ['-'] then -(Nat.ofDigitChars 10 e.digits 0 : Int) else Nat.ofDigitChars 10 e.digits 0

structure Numeral where
  negative : Bool
  whole : List Char
  fraction : Option (List Char)
  exponent : Option Exponent
  isWhole : IsDigits whole
  /-- A whole part of several digits does not start with zero. -/
  unpadded : ∀ c rest, whole ≠ '0' :: c :: rest
  isFraction : ∀ s ∈ fraction, IsDigits s

/-- The fraction and the power of ten. -/
def Numeral.tail (x : Numeral) : List Char :=
  x.fraction.elim [] ('.' :: ·) ++ x.exponent.elim [] Exponent.written

def Numeral.written (x : Numeral) : List Char :=
  (if x.negative then ['-'] else []) ++ x.whole ++ x.tail

/-- The whole part with its sign. -/
def Numeral.integer (x : Numeral) : Int :=
  if x.negative then -(Nat.ofDigitChars 10 x.whole 0 : Int) else Nat.ofDigitChars 10 x.whole 0

/-- Is this a whole number of 64 bits?  Negative zero is none. -/
def Numeral.isInteger (x : Numeral) : Bool :=
  x.fraction.isNone && x.exponent.isNone && Number.fits x.integer && !(x.negative && x.integer = 0)

/-- The number that a numeral stands for: whole if it can be, else a finite fraction. -/
def Numeral.value? (x : Numeral) : Option Number :=
  if x.isInteger then some (.whole x.integer)
  else ((Significand.ofWhole 0 x.whole).withFraction (x.fraction.getD [])).real? x.negative
    (x.exponent.elim 0 Exponent.value)

/-! ## Tokens -/

/-- A token as it is written. -/
inductive Lexeme where
  | openList
  | closeList
  | openObject
  | closeObject
  | comma
  | colon
  | quoted (pieces : List Piece)
  | word (letters : List Char) (h : letters ≠ [] ∧ ∀ c ∈ letters, isLetter c = true)

namespace Lexeme

def written : Lexeme → List Char
  | openList => ['[']
  | closeList => [']']
  | openObject => ['{']
  | closeObject => ['}']
  | comma => [',']
  | colon => [':']
  | quoted pieces => '"' :: (pieces.flatMap Piece.written ++ ['"'])
  | word letters _ => letters

def isWord : Lexeme → Bool
  | word _ _ => true
  | _ => false

end Lexeme

/-- Tokens with blank space between them, wherever there is some.  A word goes on while letters
follow; in a tree there is always another token between two words. -/
inductive Writes : List Lexeme → List Char → Prop
  | nil : Writes [] []
  | space {lexemes : List Lexeme} {c : Char} {s : List Char} : isSpace c = true → Writes lexemes s →
      Writes lexemes (c :: s)
  | lexeme {lexemes : List Lexeme} (l : Lexeme) {s : List Char} :
      (l.isWord = true → EndsRun isLetter s) → Writes lexemes s →
      Writes (l :: lexemes) (l.written ++ s)

/-! ## Trees -/

/-- A value as it is written. -/
inductive Tree where
  | null
  | bool (value : Bool)
  | number (numeral : Numeral)
  | text (pieces : List Piece)
  | list (items : List Tree)
  | object (members : List (List Piece × Tree))

theorem Exponent.isLetter_written (e : Exponent) : ∀ c ∈ e.written, Json.isLetter c = true := by
  intro c hc
  rcases List.mem_cons.1 hc with rfl | hc
  · rcases e.isLetter with h | h <;> rw [h] <;> decide
  rcases List.mem_append.1 hc with hc | hc
  · rcases e.isSign with h | h | h <;> rw [h] at hc
    · exact absurd hc List.not_mem_nil
    · rw [List.mem_singleton.1 hc]
      decide
    · rw [List.mem_singleton.1 hc]
      decide
  · exact isLetter_of_isDigit (e.isDigits.2 c hc)

theorem Numeral.isWord_written (x : Numeral) :
    x.written ≠ [] ∧ ∀ c ∈ x.written, isLetter c = true := by
  constructor
  · simp [written, x.isWhole.1]
  intro c hc
  rcases List.mem_append.1 hc with hc | hc
  · rcases List.mem_append.1 hc with hc | hc
    · split at hc
      · rw [List.mem_singleton.1 hc]
        decide
      · exact absurd hc List.not_mem_nil
    · exact isLetter_of_isDigit (x.isWhole.2 c hc)
  · rcases List.mem_append.1 hc with hc | hc
    · cases hf : x.fraction with
      | none =>
        rw [hf] at hc
        exact absurd hc List.not_mem_nil
      | some s =>
        rw [hf] at hc
        rcases List.mem_cons.1 hc with rfl | hc
        · decide
        · exact isLetter_of_isDigit ((x.isFraction s hf).2 c hc)
    · cases he : x.exponent with
      | none =>
        rw [he] at hc
        exact absurd hc List.not_mem_nil
      | some e =>
        rw [he] at hc
        exact e.isLetter_written c hc

theorem isLetter_null : "null".toList ≠ [] ∧ ∀ c ∈ "null".toList, isLetter c = true :=
  ⟨by decide, List.all_eq_true.1 (by decide)⟩

theorem isLetter_bool (b : Bool) : (toString b).toList ≠ [] ∧
    ∀ c ∈ (toString b).toList, isLetter c = true := by
  cases b
  · exact ⟨by decide, List.all_eq_true.1 (by decide)⟩
  · exact ⟨by decide, List.all_eq_true.1 (by decide)⟩

mutual

def Tree.lexemes : Tree → List Lexeme
  | .null => [.word _ isLetter_null]
  | .bool b => [.word _ (isLetter_bool b)]
  | .number x => [.word _ x.isWord_written]
  | .text pieces => [.quoted pieces]
  | .list [] => [.openList, .closeList]
  | .list (t :: items) => .openList :: (t.lexemes ++ moreItems items)
  | .object [] => [.openObject, .closeObject]
  | .object ((key, t) :: members) =>
    .openObject :: .quoted key :: .colon :: (t.lexemes ++ moreMembers members)

/-- Further items, and the end of the list. -/
def moreItems : List Tree → List Lexeme
  | [] => [.closeList]
  | t :: items => .comma :: (t.lexemes ++ moreItems items)

/-- Further members, and the end of the object. -/
def moreMembers : List (List Piece × Tree) → List Lexeme
  | [] => [.closeObject]
  | (key, t) :: members => .comma :: .quoted key :: .colon :: (t.lexemes ++ moreMembers members)

end

mutual

/-- The value of a tree whose lists and objects are nested at most `room` deep; of several members
with one key the last counts. -/
def Tree.value? (room : Nat) : Tree → Option Json
  | .null => some .null
  | .bool b => some (.bool b)
  | .number x => x.value?.map .number
  | .text pieces => (Piece.text? pieces).map fun s => .text (String.ofList s)
  | .list items => if room = 0 then none else (values? (room - 1) items).map .list
  | .object members =>
    if room = 0 then none else (memberValues? (room - 1) members).map ofMembers

def values? (room : Nat) : List Tree → Option (List Json)
  | [] => some []
  | t :: items => do
    let v ← t.value? room
    let rest ← values? room items
    some (v :: rest)

def memberValues? (room : Nat) : List (List Piece × Tree) → Option (List (String × Json))
  | [] => some []
  | (key, t) :: members => do
    let key ← Piece.text? key
    let v ← t.value? room
    let rest ← memberValues? room members
    some ((String.ofList key, v) :: rest)

end

/-- Trees that have a value: lists and objects nested at most `room` deep, finite numbers, and no
half of a pair of escapes alone. -/
inductive Tree.HasValue : Nat → Tree → Prop
  | null {room : Nat} : HasValue room .null
  | bool {room : Nat} (b : Bool) : HasValue room (.bool b)
  | number {room : Nat} {x : Numeral} : x.value?.isSome → HasValue room (.number x)
  | text {room : Nat} {pieces : List Piece} : (Piece.text? pieces).isSome →
      HasValue room (.text pieces)
  | list {room : Nat} {items : List Tree} : (∀ t ∈ items, HasValue room t) →
      HasValue (room + 1) (.list items)
  | object {room : Nat} {members : List (List Piece × Tree)} :
      (∀ m ∈ members, (Piece.text? m.1).isSome) → (∀ m ∈ members, HasValue room m.2) →
      HasValue (room + 1) (.object members)

end LoginGate.Json
