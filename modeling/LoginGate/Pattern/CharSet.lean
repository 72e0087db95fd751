import LoginGate.Text.Blank
import LoginGate.Text.CaseForms
import LoginGate.Text.Properties
import LoginGate.Text.Scripts

/-!
# Sets of characters

A set is written as it is built: ranges, properties, and the operations on sets.  `contains` is the
membership that the operations name; no range is ever merged with another.
-/

namespace LoginGate

open LoginGate.Text

/-- A property of characters that a set can be made of. -/
inductive CharProperty where
  /-- General categories by their two letters; `Cn` is the category of what has no other. -/
  | categories (names : List String)
  | script (name : String)
  | alphabetic
  | uppercase
  | lowercase
  | blank
  | emoji
  | word
  deriving DecidableEq, Repr, Inhabited

inductive CharSet where
  | empty
  | range (low high : Char)
  | property (p : CharProperty)
  | union (a b : CharSet)
  | inter (a b : CharSet)
  | complement (a : CharSet)
  /-- The members and all characters that differ from one of them only in case. -/
  | caseless (a : CharSet)
  /-- The same for the letters of ASCII alone. -/
  | asciiCaseless (a : CharSet)
  deriving DecidableEq, Repr, Inhabited

def CharProperty.holds : CharProperty → Char → Bool
  | categories names, c => inCategory names.contains c || (names.contains "Cn" && isUnassigned c)
  | script name, c => scriptTables.any fun entry => entry.1 == name && entry.2.contains c
  | alphabetic, c => isAlphabetic c
  | uppercase, c => isUppercase c
  | lowercase, c => isLowercase c
  | blank, c => isBlank c
  | emoji, c => Text.emoji.contains c
  | word, c => isWordChar c

/-- The letter of ASCII in the other case, or the character itself. -/
def otherAsciiCase (c : Char) : Char := if c.isUpper then c.toLower else c.toUpper

namespace CharSet

def contains : CharSet → Char → Bool
  | empty, _ => false
  | range low high, c => low.toNat ≤ c.toNat && c.toNat ≤ high.toNat
  | property p, c => p.holds c
  | union a b, c => a.contains c || b.contains c
  | inter a b, c => a.contains c && b.contains c
  | complement a, c => !a.contains c
  | caseless a, c => a.contains c || (caseForms c).any fun form => a.contains form
  | asciiCaseless a, c => a.contains c || a.contains (otherAsciiCase c)

def single (c : Char) : CharSet := range c c

def all : CharSet := complement empty

def difference (a b : CharSet) : CharSet := inter a (complement b)

/-- What is in exactly one of the two sets. -/
def symmetricDifference (a b : CharSet) : CharSet := union (difference a b) (difference b a)

def unions (sets : List CharSet) : CharSet :=
  match sets with
  | [] => empty
  | [a] => a
  | a :: rest => union a (unions rest)

def asciiDigits : CharSet := range '0' '9'

def asciiLetters : CharSet := union (range 'A' 'Z') (range 'a' 'z')

def asciiWord : CharSet := unions [asciiLetters, asciiDigits, single '_']

def asciiBlank : CharSet := union (range '\t' '\r') (single ' ')

theorem contains_single (c d : Char) : (single c).contains d = (c == d) := by
  simp only [single, contains]
  rw [Bool.eq_iff_iff]
  simp only [Bool.and_eq_true, decide_eq_true_eq, beq_iff_eq]
  constructor
  · intro ⟨h, h'⟩
    exact Char.ext (UInt32.toNat_inj.1 (Nat.le_antisymm h h'))
  · rintro rfl
    exact ⟨Nat.le_refl _, Nat.le_refl _⟩

end CharSet

end LoginGate
