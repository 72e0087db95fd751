import LoginGate.Number.Shortest
import LoginGate.Text.Numeral
import LoginGate.Toml.Scalar

/-!
# Trees of settings

What files and the environment say about settings is merged into one tree.  `Tree.set` binds a path:
tables are merged key by key, and anything else takes the place of what was there.  Whatever stands
in the way of a path gives way to a table or a list.
-/

namespace LoginGate.Settings

open LoginGate.Text

/-- A value that is given for a setting, or for several at once. -/
inductive Tree where
  | absent
  | flag (value : Bool)
  | whole (value : Int)
  | real (value : Number.Extended)
  | text (value : String)
  | list (items : List Tree)
  | table (members : List (String × Tree))
  deriving Repr, Inhabited

/-- One step of a path; an index below zero counts from the end. -/
inductive Step where
  | key (name : String)
  | index (position : Int)
  deriving DecidableEq, Repr

/-! ## Paths as text -/

/-- May the character stand in a name? -/
def isNameChar (c : Char) : Bool := c.isAlphanum || c = '_' || c = '-'

def isSpace (c : Char) : Bool := c = ' ' || c = '\t'

/-- A name, and what follows it. -/
def name? (s : List Char) : Option (Step × List Char) :=
  match s.takeWhile isNameChar with
  | [] => none
  | name => some (.key (String.ofList name), s.dropWhile isNameChar)

/-- An index up to its closing bracket, and what follows. -/
def index? (s : List Char) : Option (Step × List Char) := do
  let (negative, rest) := match s.dropWhile isSpace with
    | '-' :: rest => (true, rest)
    | rest => (false, rest)
  let n ← decimalValue? (rest.takeWhile isDigit)
  let z : Int := if negative then -n else n
  match (rest.dropWhile isDigit).dropWhile isSpace with
  | ']' :: rest =>
    if Number.isSigned 64 z then some (.index z, rest) else none
  | _ => none

def steps? : Nat → List Char → Option (List Step)
  | 0, _ => none
  | fuel + 1, s =>
    match s with
    | [] => some []
    | '.' :: rest => do
      let (step, rest) ← name? rest
      (steps? fuel rest).map (step :: ·)
    | '[' :: rest => do
      let (step, rest) ← index? rest
      (steps? fuel rest).map (step :: ·)
    | _ => none

/-- The path that a text writes: names with dots between them and indices in brackets, a name
first.  Any other text is one step. -/
def pathOf (s : String) : List Step :=
  let steps := do
    let (first, rest) ← name? s.toList
    (steps? (rest.length + 1) rest).map (first :: ·)
  steps.getD [.key s]

/-! ## Setting a path -/

/-- The value of a key; nothing given is absent. -/
def lookup (key : String) (members : List (String × Tree)) : Tree :=
  (List.lookup key members).getD .absent

/-- The members with a key bound, in its old place if it was bound before. -/
def bind (key : String) (value : Tree) : List (String × Tree) → List (String × Tree)
  | [] => [(key, value)]
  | (k, v) :: rest => if k = key then (key, value) :: rest else (k, v) :: bind key value rest

namespace Tree

/-- The members of a table; none of anything else. -/
def members : Tree → List (String × Tree)
  | table members => members
  | _ => []

/-- The items of a list; none of anything else. -/
def items : Tree → List Tree
  | list items => items
  | _ => []

/-- The items with one more at an index, so that the index is inside, and the index from the
start. -/
def reach (position : Int) (items : List Tree) : List Tree × Nat :=
  let missing := fun (n : Nat) => List.replicate n absent
  if 0 ≤ position then
    (items ++ missing (position.toNat + 1 - items.length), position.toNat)
  else if position.natAbs ≤ items.length then (items, items.length - position.natAbs)
  else (missing (position.natAbs - items.length) ++ items, 0)

/-- Changes what is at the end of a path. -/
def change (f : Tree → Tree) : List Step → Tree → Tree
  | [], t => f t
  | .key name :: rest, t => table (bind name (change f rest (lookup name t.members)) t.members)
  | .index position :: rest, t =>
    let (items, n) := reach position t.items
    list (items.set n (change f rest (items.getD n absent)))

mutual

/-- What there is after more was given: a table adds its members, anything else counts alone. -/
def merge (new : Tree) (old : Tree) : Tree :=
  match new with
  | table added => table (mergeMembers added old.members)
  | new => new

/-- The members after more were given. -/
def mergeMembers (added : List (String × Tree)) (old : List (String × Tree)) :
    List (String × Tree) :=
  match added with
  | [] => old
  | (key, value) :: rest => mergeMembers rest (bind key (merge value (lookup key old)) old)

end

def set (t : Tree) (path : List Step) (value : Tree) : Tree := t.change value.merge path

/-- Binds several paths one after the other. -/
def setAll (t : Tree) (entries : List (String × Tree)) : Tree :=
  entries.foldl (fun t entry => t.set (pathOf entry.1) entry.2) t

end Tree

/-! ## Documents as trees -/

mutual

/-- A value of a document as a tree. -/
def Tree.ofValue : Toml.Value → Tree
  | .text s => .text s
  | .whole z => .whole z
  | .real x => .real x
  | .bool b => .flag b
  | .moment s => .text s
  | .list items => .list (treesOf items)
  | .table members => .table (membersOf members)

def treesOf : List Toml.Value → List Tree
  | [] => []
  | v :: rest => Tree.ofValue v :: treesOf rest

def membersOf : List (String × Toml.Value) → List (String × Tree)
  | [] => []
  | (key, v) :: rest => (key, Tree.ofValue v) :: membersOf rest

end

end LoginGate.Settings
