import LoginGate.Pattern.Escape

/-!
# Sets in brackets

`[a-z_]` is the union of its items; `[^…]` is the complement.  Items are characters, ranges,
escapes, names such as `[:alpha:]`, and sets in brackets.  `&&`, `--` and `~~` between items are the
operations on sets, applied from left to right.  A `]` that stands first and hyphens that stand
first or last are themselves.
-/

namespace LoginGate.Pattern

/-- A set and how deep its brackets are nested. -/
structure Nested where
  set : CharSet
  depth : Nat
  deriving Repr

/-- An operation between two sets in one pair of brackets. -/
inductive SetOperation where
  | inter
  | difference
  | symmetricDifference
  deriving DecidableEq, Repr

def SetOperation.apply (o : SetOperation) (a b : CharSet) : CharSet :=
  match o with
  | inter => .inter a b
  | difference => .difference a b
  | symmetricDifference => .symmetricDifference a b

/-- A pair of brackets that is not closed yet: what is left of the last operation, and the items
after it, the last one first. -/
structure OpenBracket where
  pending : Option (Nested × SetOperation) := none
  items : List Nested := []
  deriving Repr

namespace OpenBracket

def add (b : OpenBracket) (item : Nested) : OpenBracket := { b with items := item :: b.items }

def union (b : OpenBracket) : Nested :=
  match b.items with
  | [item] => item
  | items => ⟨.unions (items.reverse.map Nested.set),
      if items.isEmpty then 0 else 1 + (items.map Nested.depth).foldl max 0⟩

/-- The set so far, the last operation applied. -/
def value (f : Flags) (b : OpenBracket) : Nested :=
  match b.pending with
  | none => b.union
  | some (left, o) =>
    ⟨o.apply (f.fold left.set) (f.fold b.union.set), 1 + max left.depth b.union.depth⟩

/-- An operation between what is there and what comes. -/
def operate (f : Flags) (b : OpenBracket) (o : SetOperation) : OpenBracket :=
  { pending := some (b.value f, o), items := [] }

/-- The set of a closed pair of brackets. -/
def close (f : Flags) (negated : Bool) (b : OpenBracket) : Option Nested := do
  let inner := b.value f
  some ⟨← f.orNot negated (f.fold inner.set), 1 + inner.depth⟩

end OpenBracket

/-- The items that stand first in a pair of brackets: hyphens, or else a closing bracket. -/
def leadingItems (f : Flags) (fuel : Nat) (b : OpenBracket) (rest : List Char) :
    OpenBracket × List Char :=
  match fuel, rest with
  | fuel + 1, '-' :: after => leadingItems f fuel (b.add ⟨.single '-', 0⟩) (f.skip after)
  | _, ']' :: after =>
    if b.items.isEmpty then (b.add ⟨.single ']', 0⟩, f.skip after) else (b, rest)
  | _, rest => (b, rest)

/-- What follows an opening bracket: whether the set is negated, and the items that stand first. -/
def opening (f : Flags) (rest : List Char) : Bool × OpenBracket × List Char :=
  match f.skip rest with
  | '^' :: after => (true, leadingItems f (rest.length + 1) {} (f.skip after))
  | after => (false, leadingItems f (rest.length + 1) {} after)

/-- A set that is named between colons, after its opening bracket. -/
def namedSet? (f : Flags) (rest : List Char) : Option (CharSet × List Char) :=
  match rest with
  | ':' :: rest => do
    let (negated, rest) := match rest with
      | '^' :: rest => (true, rest)
      | rest => (false, rest)
    match rest.dropWhile (· != ':') with
    | ':' :: ']' :: after =>
      let set ← asciiClass? (String.ofList (rest.takeWhile (· != ':')))
      some (if negated then .complement (f.fold set) else f.fold set, after)
    | _ => none
  | _ => none

/-- A character or an escape. -/
def atom? (f : Flags) (rest : List Char) : Option (Atom × List Char) :=
  match rest with
  | [] => none
  | '\\' :: rest => escape? f rest
  | c :: rest => some (.character c false, rest)

/-- The character of an atom, where a set may hold it. -/
def Atom.char? (f : Flags) (a : Atom) : Option Char :=
  match a with
  | character c octet => if allowed f octet true c then some c else none
  | _ => none

def item? (f : Flags) (rest : List Char) : Option (CharSet × List Char) := do
  let (first, rest) ← atom? f rest
  let rest := f.skip rest
  match rest with
  | '-' :: after =>
    if f.second? rest = some ']' ∨ f.second? rest = some '-' then
      some (← alone first, rest)
    else do
      let (last, rest) ← atom? f (f.skip after)
      let low ← first.char? f
      let high ← last.char? f
      if low.toNat ≤ high.toNat then some (.range low high, rest) else none
  | [] => none
  | rest => some (← alone first, rest)
where
  alone (a : Atom) : Option CharSet :=
    match a with
    | .class_ set => some set
    | .boundary _ => none
    | a => (a.char? f).map .single

/-- The items up to the closing bracket, and what follows it.  `fuel` is at least the number of
characters. -/
def items? (f : Flags) : Nat → OpenBracket → List Char → Option (OpenBracket × List Char)
  | 0, _, _ => none
  | fuel + 1, b, rest =>
    match f.skip rest with
    | [] => none
    | ']' :: rest => some (b, rest)
    | '[' :: rest =>
      match namedSet? f rest with
      | some (set, after) => do
        if !f.unicode ∧ rest.tail.head? = some '^' then none
        else items? f fuel (b.add ⟨set, 0⟩) after
      | none => do
        let (negated, inner, rest) := opening f rest
        let (inner, rest) ← items? f fuel inner rest
        items? f fuel (b.add (← inner.close f negated)) rest
    | '&' :: '&' :: rest => items? f fuel (b.operate f .inter) rest
    | '-' :: '-' :: rest => items? f fuel (b.operate f .difference) rest
    | '~' :: '~' :: rest => items? f fuel (b.operate f .symmetricDifference) rest
    | rest => do
      let (set, rest) ← item? f rest
      items? f fuel (b.add ⟨set, 0⟩) rest

/-- The set of a pair of brackets, after its opening bracket, and what follows it. -/
def bracket? (f : Flags) (rest : List Char) : Option (Nested × List Char) := do
  let (negated, inner, rest) := opening f rest
  let (inner, rest) ← items? f (rest.length + 1) inner rest
  some (← inner.close f negated, rest)

end LoginGate.Pattern
