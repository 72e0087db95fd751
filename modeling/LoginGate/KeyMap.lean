/-!
# Maps from texts, in the order of their keys

A `KeyMap` is a list of pairs whose keys ascend by code point; `insert` keeps it so and replaces the
value of a key that is there, so of several values for one key the last given counts.
-/

namespace LoginGate

/-- Pairs in ascending order of their keys. -/
abbrev KeyMap (α : Type) := List (String × α)

namespace KeyMap

variable {α β : Type}

def insert (key : String) (value : α) : KeyMap α → KeyMap α
  | [] => [(key, value)]
  | (k, v) :: rest =>
    if key < k then (key, value) :: (k, v) :: rest
    else if key = k then (key, value) :: rest
    else (k, v) :: insert key value rest

/-- The pairs as a map; the last value given for a key counts. -/
def ofPairs (pairs : List (String × α)) : KeyMap α :=
  pairs.foldl (fun map pair => insert pair.1 pair.2 map) []

def find? (key : String) (map : KeyMap α) : Option α := List.lookup key map

def mapValues (f : α → β) (map : KeyMap α) : KeyMap β := map.map fun pair => (pair.1, f pair.2)

def Ascending (map : KeyMap α) : Prop := map.Pairwise fun a b => a.1 < b.1

end KeyMap

end LoginGate
