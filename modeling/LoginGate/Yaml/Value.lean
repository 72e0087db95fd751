import LoginGate.Json.Basic
import LoginGate.Yaml.Node
import LoginGate.Yaml.Scalar

/-!
# What nodes hold

Where a text is expected a scalar counts as it is written, whatever its tag; where any value is
expected a plain scalar stands for what the core schema says.  Lists and maps may be nested 128
deep, and following aliases too often is a fault.  `value?` is the value of a whole text.
-/

namespace LoginGate.Yaml

/-- Reading counts the aliases that it follows, and may fail. -/
abbrev Read := StateT Nat Option

/-- A node, and how many lists and maps may still be nested in it. -/
structure Place where
  depth : Nat
  node : Node

/-- The nodes that aliases may stand for, and how many of them are followed at most. -/
structure Aliases where
  targets : List (Nat × Node)
  limit : Nat

namespace Aliases

/-- The node that an alias with this number stands for. -/
def jump (a : Aliases) (number : Nat) : Read Node := do
  let count ← get
  set (count + 1)
  if a.limit < count + 1 then failure
  else match a.targets.lookup number with
    | some n => pure n
    | none => failure

/-- The node itself, or the one that it stands for. -/
def follow (a : Aliases) (n : Node) : Read Node :=
  match n with
  | .reference number => a.jump number
  | .cut => failure
  | n => pure n

end Aliases

/-! ## Scalars -/

/-- The bytes of a core tag. -/
def coreTag (name : String) : List UInt8 :=
  ("tag:yaml.org,2002:" ++ name).toList.flatMap String.utf8EncodeChar

/-- Is a tag one of the application's own? -/
def isLocalTag (tag : List UInt8) : Bool := tag.head? == some 33

/-- A whole number or a real one as a value; infinities and not-a-number have none. -/
def resolutionValue? (text : List Char) : Resolution → Option Json
  | .null => some .null
  | .bool b => some (.bool b)
  | .whole z => some (.number (.whole z))
  | .wide => none
  | .real (.finite x) => some (.number (.real x))
  | .real _ => some .null
  | .text => some (.text (String.ofList text))

def taggedValue? (tag : List UInt8) (text : List Char) : Option Json :=
  if isLocalTag tag then none
  else if tag = coreTag "bool" then (bool? text).map Json.bool
  else if tag = coreTag "int" then wholeResolution? text >>= resolutionValue? text
  else if tag = coreTag "float" then real? text >>= fun x => resolutionValue? text (.real x)
  else if tag = coreTag "null" then if isNullWord text then some .null else none
  else some (.text (String.ofList text))

def scalarValue? (tag : Option (List UInt8)) (text : List Char) (style : ScalarStyle) :
    Option Json :=
  match tag with
  | some tag => taggedValue? tag text
  | none =>
    if style = .plain then resolutionValue? text (resolve text)
    else some (.text (String.ofList text))

def isAbsentScalar? (tag : Option (List UInt8)) (text : List Char) (style : ScalarStyle) :
    Option Bool :=
  if style ≠ .plain then some false
  else match tag with
    | none => some (text.isEmpty || isNullWord text)
    | some tag =>
      if tag ≠ coreTag "null" then some false
      else if isNullWord text then some true
      else none

/-! ## Nodes -/

/-- Does a node stand for an absent value? -/
def isAbsent (a : Aliases) (n : Node) : Read Bool :=
  match n with
  | .scalar _ tag text style => liftM (isAbsentScalar? tag text style)
  | .reference number => do
    let followed ← get
    match ← a.jump number with
    | .scalar _ tag text style =>
      let absent ← liftM (isAbsentScalar? tag text style)
      if !absent then set followed
      return absent
    | _ => do
      set followed
      return false
  | .cut => failure
  | _ => pure false

def nodeText (a : Aliases) (n : Node) : Read String := do
  match ← a.follow n with
  | .scalar _ _ text _ => return String.ofList text
  | _ => failure

/-- Is this a scalar that may stand for an empty list or map? -/
def isBareScalar (text : List Char) (style : ScalarStyle) : Bool :=
  text.isEmpty && style == .plain

def placeItems (a : Aliases) (p : Place) : Read (List Place) := do
  match ← a.follow p.node, p.depth with
  | .list _ _ items, depth + 1 => return items.map fun n => ⟨depth, n⟩
  | .scalar _ _ text style, _ => if isBareScalar text style then return [] else failure
  | _, _ => failure

def placePairs (a : Aliases) (p : Place) : Read (List (Place × Place)) := do
  match ← a.follow p.node, p.depth with
  | .map _ _ pairs, depth + 1 => return pairs.map fun pair => (⟨depth, pair.1⟩, ⟨depth, pair.2⟩)
  | .scalar _ _ text style, _ => if isBareScalar text style then return [] else failure
  | _, _ => failure

/-- A member of an untyped map; the last value for a key counts. -/
def addMember (a : Aliases) (value : Node → Read Json) (members : KeyMap Json)
    (pair : Node × Node) : Read (KeyMap Json) := do
  let key ← nodeText a pair.1
  return KeyMap.insert key (← value pair.2) members

/-- The value of a node; `inner` gives those of its parts, unless it may not have any. -/
def valueWith (a : Aliases) (inner : Option (Node → Read Json)) (n : Node) : Read Json := do
  match ← a.follow n, inner with
  | .scalar _ tag text style, _ => liftM (scalarValue? tag text style)
  | .list _ tag items, some inner =>
    if tag.any isLocalTag then failure else return .list (← items.mapM inner)
  | .map _ tag pairs, some inner =>
    if tag.any isLocalTag then failure
    else return .object (← pairs.foldlM (addMember a inner) [])
  | _, _ => failure

/-- The value of a node with so many lists and maps nested in it. -/
def nodeValue (a : Aliases) : Nat → Node → Read Json
  | 0 => valueWith a none
  | depth + 1 => valueWith a (some (nodeValue a depth))

/-! ## Documents -/

/-- The nesting of lists and maps that is read. -/
def nestingLimit : Nat := 128

/-- The nodes that the aliases of a document stand for. -/
def Document.aliases (d : Document) : Aliases := ⟨d.targets, 100 * d.size⟩

/-- The value that a text holds, null if the text is empty. -/
def value? (text : String) : Option Json := do
  let d := Document.ofText text.toList
  let value ← match d.root with
    | none => some .null
    | some n => (nodeValue d.aliases nestingLimit n).run' 0
  if d.sound then some value else none

end LoginGate.Yaml
