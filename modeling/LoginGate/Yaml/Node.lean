import LoginGate.Yaml.Event
import LoginGate.Yaml.Tokens

/-!
# Documents as trees

`Document.ofText` builds the tree of the first document of a text, from its events.  A document that
breaks off at a fault is kept as far as it goes: `Node.cut` stands where every list and map that was
still open breaks off.
-/

namespace LoginGate.Yaml

/-- A node of a document.  Anchors and aliases carry numbers; of several nodes with one number the
last is meant. -/
inductive Node where
  | scalar (anchor : Option Nat) (tag : Option (List UInt8)) (text : List Char) (style : ScalarStyle)
  | list (anchor : Option Nat) (tag : Option (List UInt8)) (items : List Node)
  | map (anchor : Option Nat) (tag : Option (List UInt8)) (pairs : List (Node × Node))
  | reference (target : Nat)
  /-- The document breaks off here. -/
  | cut
  deriving Repr, Inhabited

namespace Node

/-- A node under its number. -/
def mark (anchor : Option Nat) (n : Node) : List (Nat × Node) :=
  match anchor with
  | some number => [(number, n)]
  | none => []

mutual

/-- The nodes with anchors, in the order in which they start. -/
def anchored : Node → List (Nat × Node)
  | scalar anchor tag text style => mark anchor (scalar anchor tag text style)
  | list anchor tag items => mark anchor (list anchor tag items) ++ anchoredItems items
  | map anchor tag pairs => mark anchor (map anchor tag pairs) ++ anchoredPairs pairs
  | reference _ => []
  | cut => []

def anchoredItems : List Node → List (Nat × Node)
  | [] => []
  | n :: rest => anchored n ++ anchoredItems rest

def anchoredPairs : List (Node × Node) → List (Nat × Node)
  | [] => []
  | (k, v) :: rest => anchored k ++ anchored v ++ anchoredPairs rest

end

end Node

/-- A list or a map that is still open: its entries in reverse order. -/
inductive OpenNode where
  | list (anchor : Option Nat) (tag : Option (List UInt8)) (items : List Node)
  | map (anchor : Option Nat) (tag : Option (List UInt8)) (pairs : List (Node × Node))
      (key : Option Node)

namespace OpenNode

def add (o : OpenNode) (n : Node) : OpenNode :=
  match o with
  | list anchor tag items => list anchor tag (n :: items)
  | map anchor tag pairs none => map anchor tag pairs (some n)
  | map anchor tag pairs (some key) => map anchor tag ((key, n) :: pairs) none

def close (o : OpenNode) : Node :=
  match o with
  | list anchor tag items => .list anchor tag items.reverse
  | map anchor tag pairs _ => .map anchor tag pairs.reverse

/-- The node where the document breaks off. -/
def breakOff (o : OpenNode) : Node :=
  match o with
  | map anchor tag pairs none => (map anchor tag ((.cut, .cut) :: pairs) none).close
  | o => (o.add .cut).close

end OpenNode

structure Draft where
  /-- The open lists and maps, innermost first. -/
  frames : List OpenNode := []
  root : Option Node := none
  /-- The numbers of the names of anchors, and how many names there are. -/
  names : List (List Char × Nat) := []
  nameCount : Nat := 0
  /-- The number of events. -/
  size : Nat := 0

namespace Draft

def add (d : Draft) (n : Node) : Draft :=
  match d.frames with
  | [] => { d with root := some n }
  | o :: rest => { d with frames := o.add n :: rest }

/-- An anchor is numbered by how many names were given before. -/
def declare (d : Draft) (anchor : Option (List Char)) : Option Nat × Draft :=
  match anchor with
  | none => (none, d)
  | some name =>
    (some d.nameCount,
      { d with
        names := (name, d.nameCount) :: d.names
        nameCount := if (d.names.lookup name).isSome then d.nameCount else d.nameCount + 1 })

def close (d : Draft) : Draft :=
  match d.frames with
  | [] => d
  | o :: rest => { d with frames := rest }.add o.close

/-- One event taken into account; none at an alias for a name that was not given. -/
def step? (d : Draft) (e : Event) : Option Draft :=
  let d := { d with size := d.size + 1 }
  match e with
  | .reference name => (d.names.lookup name).map fun number => d.add (.reference number)
  | .scalar properties text style =>
    let (anchor, d) := d.declare properties.anchor
    some (d.add (.scalar anchor properties.tag text style))
  | .listStart properties =>
    let (anchor, d) := d.declare properties.anchor
    some { d with frames := .list anchor properties.tag [] :: d.frames }
  | .mapStart properties =>
    let (anchor, d) := d.declare properties.anchor
    some { d with frames := .map anchor properties.tag [] none :: d.frames }
  | .listEnd => some d.close
  | .mapEnd => some d.close
  | _ => some d

/-- Every list and map that is still open breaks off here. -/
def breakOff (d : Draft) : Node :=
  match d.frames with
  | [] => d.root.getD .cut
  | o :: rest => rest.foldl (fun n o => (o.add n).breakOff) o.breakOff

end Draft

/-- The first document of a text. -/
structure Document where
  /-- None if the text has no document. -/
  root : Option Node
  /-- The number of nodes and ends of nodes that were told. -/
  size : Nat
  /-- Is there no fault, and no second document? -/
  sound : Bool

namespace Document

/-- The events of a document taken into account up to its end or a fault; what follows them, and
whether there was no fault. -/
def build : Draft → List Event → Draft × List Event × Bool
  | d, [] => (d, [], false)
  | d, .documentStart :: rest => build d rest
  | d, .documentEnd :: rest => (d, rest, true)
  | d, .streamEnd :: rest => (d, .streamEnd :: rest, true)
  | d, e :: rest =>
    match d.step? e with
    | some d => build d rest
    | none => (d, e :: rest, false)

/-- The first document that events tell. -/
def ofEvents (events : List Event) : Document :=
  match build {} events with
  | (d, rest, true) => ⟨d.root, d.size, rest == [.streamEnd]⟩
  | (d, _, false) => ⟨some d.breakOff, d.size, false⟩

def ofText (text : List Char) : Document := ofEvents (events (tokens text).tokens)

/-- The nodes with anchors, the last one first. -/
def targets (d : Document) : List (Nat × Node) :=
  match d.root with
  | some n => n.anchored.reverse
  | none => []

end Document

end LoginGate.Yaml
