import LoginGate.Yaml.Token

/-!
# The structure of a text as events

Events tell the nodes of all documents in order: a scalar and an alias are one event each, a list
and a map are told by their start, their entries and their end.  `Parse.step?` works off a stack of
goals, each of them a phrase of the grammar that is still due, and looks one token ahead.
-/

namespace LoginGate.Yaml

/-- What may stand in front of a node. -/
structure Properties where
  anchor : Option (List Char) := none
  tag : Option (List UInt8) := none
  deriving DecidableEq, Repr, Inhabited

inductive Event where
  | documentStart
  | documentEnd
  | streamEnd
  | reference (name : List Char)
  | scalar (properties : Properties) (text : List Char) (style : ScalarStyle)
  | listStart (properties : Properties)
  | listEnd
  | mapStart (properties : Properties)
  | mapEnd
  deriving DecidableEq, Repr, Inhabited

/-- A phrase that is due. -/
inductive Goal where
  /-- A document; the first one of a text needs no mark. -/
  | document (first : Bool)
  /-- What a document with a mark holds. -/
  | content
  | documentEnd
  /-- A node; with `block`, one in block style too, and with `bare`, also a list that is not
  indented. -/
  | node (block bare : Bool)
  | blockItem
  | bareItem
  | blockKey
  | blockValue
  | flowItem (first : Bool)
  | pairKey
  | pairValue
  | pairEnd
  | flowKey (first : Bool)
  /-- A value between brackets; after a key without a mark there is none. -/
  | flowValue (empty : Bool)
  deriving DecidableEq, Repr

/-- What the handles of tags stand for. -/
abbrev Handles := List (List Char × List UInt8)

/-- The handles of every document. -/
def defaultHandles : Handles :=
  [(['!'], asciiTag "!"), (['!', '!'], asciiTag "tag:yaml.org,2002:")]
where
  /-- The bytes of a tag in ASCII. -/
  asciiTag (s : String) : List UInt8 := s.toList.flatMap String.utf8EncodeChar

/-- The state between two goals. -/
structure Parse where
  tokens : List Token
  goals : List Goal
  handles : Handles := []
  /-- The events so far, reversed. -/
  events : List Event := []

namespace Parse

/-- An event more, and the goals after it. -/
def emit (p : Parse) (e : Event) (goals : List Goal) : Parse :=
  { p with events := e :: p.events, goals := goals }

/-- The node that stands where nothing is written. -/
def emptyScalar : Event := .scalar {} [] .plain

/-- The first token is used up. -/
def shift (p : Parse) : Parse := { p with tokens := p.tokens.drop 1 }

/-! ## Documents -/

/-- Directives in front of a document: at most one version, 1.1 or 1.2, and each handle once. -/
def directives? : List Token → Bool → Handles → Option (Handles × List Token)
  | .versionDirective major minor :: rest, versioned, handles =>
    if versioned || major ≠ 1 || (minor ≠ 1 && minor ≠ 2) then none
    else directives? rest true handles
  | .tagDirective handle lead :: rest, versioned, handles =>
    if (handles.lookup handle).isSome then none
    else directives? rest versioned (handles ++ [(handle, lead)])
  | [], _, _ => none
  | tokens, _, handles => some (handles ++ defaultHandles, tokens)

/-- A document, or the end of the text. -/
def document? (p : Parse) (first : Bool) (goals : List Goal) : Option Parse := do
  let p := if first then p
    else { p with tokens := p.tokens.dropWhile (· == .documentEnd) }
  let (handles, tokens) ← directives? p.tokens false []
  match p.tokens, tokens with
  | .streamEnd :: _, _ => some ((p.shift).emit .streamEnd [])
  | _, .documentStart :: rest =>
    some ({ p with tokens := rest, handles := handles }.emit .documentStart
      (.content :: .documentEnd :: goals))
  | .versionDirective _ _ :: _, _ => none
  | .tagDirective _ _ :: _, _ => none
  | _, _ =>
    if first then
      some ({ p with handles := handles }.emit .documentStart
        (.node true false :: .documentEnd :: goals))
    else none

/-- What a document with a mark holds. -/
def content? (p : Parse) (goals : List Goal) : Option Parse :=
  match p.tokens with
  | [] => none
  | .versionDirective _ _ :: _ => some (p.emit emptyScalar goals)
  | .tagDirective _ _ :: _ => some (p.emit emptyScalar goals)
  | .documentStart :: _ => some (p.emit emptyScalar goals)
  | .documentEnd :: _ => some (p.emit emptyScalar goals)
  | .streamEnd :: _ => some (p.emit emptyScalar goals)
  | _ => some { p with goals := .node true false :: goals }

/-- The end of a document; another one may follow. -/
def documentEnd? (p : Parse) (goals : List Goal) : Option Parse :=
  match p.tokens with
  | [] => none
  | .documentEnd :: _ => some (p.shift.emit .documentEnd (.document false :: goals))
  | _ => some (p.emit .documentEnd (.document false :: goals))

/-! ## Nodes -/

/-- A tag in full. -/
def fullTag? (handles : Handles) (handle : List Char) (suffix : List UInt8) :
    Option (List UInt8) :=
  if handle.isEmpty then some suffix else (handles.lookup handle).map (· ++ suffix)

/-- The properties in front of a node, and what is behind them. -/
def properties? (handles : Handles) : List Token → Option (Properties × List Token)
  | .anchor name :: .tag handle suffix :: rest => do
    some (⟨some name, some (← fullTag? handles handle suffix)⟩, rest)
  | .tag handle suffix :: .anchor name :: rest => do
    some (⟨some name, some (← fullTag? handles handle suffix)⟩, rest)
  | .anchor name :: rest => some (⟨some name, none⟩, rest)
  | .tag handle suffix :: rest => do some (⟨none, some (← fullTag? handles handle suffix)⟩, rest)
  | tokens => some ({}, tokens)

/-- Properties alone stand for an empty scalar. -/
def bareScalar? (p : Parse) (properties : Properties) (goals : List Goal) : Option Parse :=
  if properties = {} then none else some (p.emit (.scalar properties [] .plain) goals)

def node? (p : Parse) (block bare : Bool) (goals : List Goal) : Option Parse :=
  match p.tokens with
  | .reference name :: _ => some (p.shift.emit (.reference name) goals)
  | _ => do
    let (properties, tokens) ← properties? p.handles p.tokens
    let p := { p with tokens := tokens }
    match tokens with
    | [] => none
    | .blockEntry :: _ =>
      if bare then some (p.emit (.listStart properties) (.bareItem :: goals))
      else p.bareScalar? properties goals
    | .scalar text style :: _ => some (p.shift.emit (.scalar properties text style) goals)
    | .flowListStart :: _ => some (p.shift.emit (.listStart properties) (.flowItem true :: goals))
    | .flowMapStart :: _ => some (p.shift.emit (.mapStart properties) (.flowKey true :: goals))
    | .blockListStart :: _ =>
      if block then some (p.shift.emit (.listStart properties) (.blockItem :: goals))
      else p.bareScalar? properties goals
    | .blockMapStart :: _ =>
      if block then some (p.shift.emit (.mapStart properties) (.blockKey :: goals))
      else p.bareScalar? properties goals
    | _ => p.bareScalar? properties goals

/-- A node, unless one of the given tokens comes next: then an empty scalar. -/
def nodeUnless? (p : Parse) (ends : Token → Bool) (block bare : Bool) (goals : List Goal) :
    Option Parse :=
  match p.tokens with
  | [] => none
  | t :: _ =>
    if ends t then some (p.emit emptyScalar goals)
    else some { p with goals := .node block bare :: goals }

/-! ## Entries -/

/-- The tokens that end an item of a block. -/
def endsBlockItem (t : Token) : Bool := t == .blockEntry || t == .blockEnd

def endsBlockPart (t : Token) : Bool := t == .key || t == .value || t == .blockEnd

def endsListPart (t : Token) : Bool := t == .flowEntry || t == .flowListEnd

def endsMapPart (t : Token) : Bool := t == .flowEntry || t == .flowMapEnd

/-- An item of a block, or its end. -/
def blockItem? (p : Parse) (goals : List Goal) : Option Parse :=
  match p.tokens with
  | .blockEntry :: _ => p.shift.nodeUnless? endsBlockItem true false (.blockItem :: goals)
  | .blockEnd :: _ => some (p.shift.emit .listEnd goals)
  | _ => none

/-- An item of a list that is not indented, or its end. -/
def bareItem? (p : Parse) (goals : List Goal) : Option Parse :=
  match p.tokens with
  | .blockEntry :: _ =>
    p.shift.nodeUnless? (fun t => t == .blockEntry || endsBlockPart t) true false
      (.bareItem :: goals)
  | [] => none
  | _ => some (p.emit .listEnd goals)

/-- A key of a block, or its end. -/
def blockKey? (p : Parse) (goals : List Goal) : Option Parse :=
  match p.tokens with
  | .key :: _ => p.shift.nodeUnless? endsBlockPart true true (.blockValue :: goals)
  | .blockEnd :: _ => some (p.shift.emit .mapEnd goals)
  | _ => none

def blockValue? (p : Parse) (goals : List Goal) : Option Parse :=
  match p.tokens with
  | .value :: _ => p.shift.nodeUnless? endsBlockPart true true (.blockKey :: goals)
  | [] => none
  | _ => some (p.emit emptyScalar (.blockKey :: goals))

/-- The comma in front of every entry but the first. -/
def comma? (p : Parse) (first : Bool) : Option Parse :=
  if first then some p
  else match p.tokens with
    | .flowEntry :: _ => some p.shift
    | _ => none

/-- An item between brackets, or their end; a key makes the item a map of one pair. -/
def flowItem? (p : Parse) (first : Bool) (goals : List Goal) : Option Parse :=
  match p.tokens with
  | .flowListEnd :: _ => some (p.shift.emit .listEnd goals)
  | _ => do
    let p ← p.comma? first
    match p.tokens with
    | [] => none
    | .key :: _ => some (p.shift.emit (.mapStart {}) (.pairKey :: .flowItem false :: goals))
    | .flowListEnd :: _ => some (p.shift.emit .listEnd goals)
    | _ => some { p with goals := .node false false :: .flowItem false :: goals }

/-- The key of a pair in a list.  Where there is none, the token in its place is lost. -/
def pairKey? (p : Parse) (goals : List Goal) : Option Parse :=
  match p.tokens with
  | [] => none
  | t :: _ =>
    if t == .value || endsListPart t then some (p.shift.emit emptyScalar (.pairValue :: goals))
    else some { p with goals := .node false false :: .pairValue :: goals }

def pairValue? (p : Parse) (goals : List Goal) : Option Parse :=
  match p.tokens with
  | [] => none
  | .value :: _ => p.shift.nodeUnless? endsListPart false false (.pairEnd :: goals)
  | _ => some (p.emit emptyScalar (.pairEnd :: goals))

/-- A key between braces, or their end. -/
def flowKey? (p : Parse) (first : Bool) (goals : List Goal) : Option Parse :=
  match p.tokens with
  | .flowMapEnd :: _ => some (p.shift.emit .mapEnd goals)
  | _ => do
    let p ← p.comma? first
    match p.tokens with
    | [] => none
    | .key :: _ =>
      p.shift.nodeUnless? (fun t => t == .value || endsMapPart t) false false
        (.flowValue false :: goals)
    | .flowMapEnd :: _ => some (p.shift.emit .mapEnd goals)
    | _ => some { p with goals := .node false false :: .flowValue true :: goals }

def flowValue? (p : Parse) (empty : Bool) (goals : List Goal) : Option Parse :=
  match p.tokens with
  | [] => none
  | .value :: _ =>
    if empty then some (p.emit emptyScalar (.flowKey false :: goals))
    else p.shift.nodeUnless? endsMapPart false false (.flowKey false :: goals)
  | _ => some (p.emit emptyScalar (.flowKey false :: goals))

def step? (p : Parse) : Option Parse :=
  match p.goals with
  | [] => none
  | .document first :: goals => p.document? first goals
  | .content :: goals => p.content? goals
  | .documentEnd :: goals => p.documentEnd? goals
  | .node block bare :: goals => p.node? block bare goals
  | .blockItem :: goals => p.blockItem? goals
  | .bareItem :: goals => p.bareItem? goals
  | .blockKey :: goals => p.blockKey? goals
  | .blockValue :: goals => p.blockValue? goals
  | .flowItem first :: goals => p.flowItem? first goals
  | .pairKey :: goals => p.pairKey? goals
  | .pairValue :: goals => p.pairValue? goals
  | .pairEnd :: goals => some (p.emit .mapEnd goals)
  | .flowKey first :: goals => p.flowKey? first goals
  | .flowValue empty :: goals => p.flowValue? empty goals

/-- All goals worked off, up to a fault. -/
def run : Nat → Parse → Parse
  | 0, p => p
  | fuel + 1, p =>
    match p.step? with
    | some next => run fuel next
    | none => p

end Parse

/-- The events that tokens tell, up to a fault or to the end of the text.  For each token that is
used up, no more than eight goals are worked off. -/
def events (tokens : List Token) : List Event :=
  match tokens with
  | .streamStart :: rest =>
    (Parse.run (8 * (rest.length + 2)) { tokens := rest, goals := [.document true] }).events.reverse
  | _ => []

end LoginGate.Yaml
