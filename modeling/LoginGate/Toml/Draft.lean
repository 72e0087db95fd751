import LoginGate.Toml.Scalar

/-!
# Tables in the making

The parts of a table may be written in several places.  A `Draft` remembers of each table how it
came about, because that decides who may add to it: a header opens a table once, though it may have
been implied by a longer header before; dotted keys add only to tables that came about by dotted
keys or were implied; nothing is added to an inline table or a list that was written as a value.
-/

namespace LoginGate.Toml

/-- How a table came about. -/
inductive Origin where
  /-- By a header of its own, or as the whole document. -/
  | header
  /-- By the header of a table inside of it. -/
  | implied
  /-- By a dotted key. -/
  | dotted
  /-- As a value. -/
  | inline
  /-- By a dotted key in a table that is a value. -/
  | inlineDotted
  deriving DecidableEq, Repr

/-- A value, a table that may grow, or a list of tables, each opened by a header, the last one
first. -/
inductive Draft where
  | value (v : Value)
  | table (origin : Origin) (members : List (String × Draft))
  | tables (elements : List (List (String × Draft)))
  deriving Repr

/-- A table in the making. -/
structure DraftTable where
  origin : Origin
  members : List (String × Draft)
  deriving Repr

namespace Origin

/-- Did the table come about without being written itself? -/
def isImplicit (o : Origin) : Bool := o == implied || o == dotted || o == inlineDotted

/-- Did a dotted key make the table? -/
def isDotted (o : Origin) : Bool := o == dotted || o == inlineDotted

/-- Is the table a value, or a part of one? -/
def isInline (o : Origin) : Bool := o == inline || o == inlineDotted

end Origin

namespace DraftTable

def find? (key : String) (t : DraftTable) : Option Draft := List.lookup key t.members

/-- The table with a key bound, in its old place if it was bound before. -/
def set (key : String) (d : Draft) (t : DraftTable) : DraftTable :=
  if (t.find? key).isSome then
    { t with members := t.members.map fun entry => if entry.1 = key then (key, d) else entry }
  else { t with members := t.members ++ [(key, d)] }

/-- Changes the table at a path.  Tables that are not there come about as `made` says; of a list of
tables the last one is meant. -/
def within (made : Origin) (path : List String) (change : DraftTable → Option DraftTable)
    (t : DraftTable) : Option DraftTable :=
  match path with
  | [] => change t
  | key :: rest =>
    match t.find? key with
    | none => do
      let inner ← within made rest change ⟨made, []⟩
      some (t.set key (.table inner.origin inner.members))
    | some (.table origin members) =>
      if origin.isInline ∧ !made.isInline then none
      else if made.isDotted ∧ !origin.isImplicit then none
      else do
        let inner ← within made rest change ⟨origin, members⟩
        some (t.set key (.table inner.origin inner.members))
    | some (.tables (last :: before)) => do
      let inner ← within made rest change ⟨.header, last⟩
      some (t.set key (.tables (inner.members :: before)))
    | some _ => none

/-- Binds a dotted key: a path and a last part. -/
def bind? (made : Origin) (path : List String) (key : String) (v : Value) (t : DraftTable) :
    Option DraftTable :=
  t.within made path fun inner =>
    if inner.origin.isDotted = !path.isEmpty ∧ (inner.find? key).isNone then
      some (inner.set key (.value v))
    else none

/-- Opens the table of a header. -/
def openTable? (path : List String) (key : String) (t : DraftTable) : Option DraftTable :=
  t.within .implied path fun inner =>
    match inner.find? key with
    | none => some (inner.set key (.table .header []))
    | some (.table .implied members) => some (inner.set key (.table .header members))
    | some _ => none

/-- Opens one more table in the list of a header. -/
def openElement? (path : List String) (key : String) (t : DraftTable) : Option DraftTable :=
  t.within .implied path fun inner =>
    match inner.find? key with
    | none => some (inner.set key (.tables [[]]))
    | some (.tables elements) => some (inner.set key (.tables ([] :: elements)))
    | some _ => none

end DraftTable

mutual

def Draft.finish : Draft → Value
  | .value v => v
  | .table _ members => .table (finishMembers members)
  | .tables elements => .list (finishElements elements).reverse

def finishMembers : List (String × Draft) → List (String × Value)
  | [] => []
  | (key, d) :: rest => (key, d.finish) :: finishMembers rest

def finishElements : List (List (String × Draft)) → List Value
  | [] => []
  | members :: rest => .table (finishMembers members) :: finishElements rest

end

end LoginGate.Toml
