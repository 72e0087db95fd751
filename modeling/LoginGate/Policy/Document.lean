import LoginGate.Policy.Basic

/-!
# Reading policies out of documents

A policy may come as JSON or as YAML.  `NodeReader` lists what reading a policy asks of a node of
such a document; `Policy.read` uses nothing else, so both kinds of document are read by the same
rules:

* a null section counts as absent, and fields with unknown names are skipped
* a known field given twice is a fault
* entries of the two rule lists that are not objects are dropped
* login parameters may be any scalar, and are kept as texts
-/

namespace LoginGate.Policy

/-- Why a document is not a policy. -/
inductive ReadFault where
  | invalid
  | parameterNotScalar (key : String) (found : Json)
  deriving Repr

/-- What reading a policy asks of the nodes `ν` of a document. -/
structure NodeReader (m : Type → Type) (ν : Type) where
  /-- Does the node stand for an absent value? -/
  isNull : ν → m Bool
  /-- The text of a node that holds one. -/
  text : ν → m String
  /-- The nodes of a list. -/
  items : ν → m (List ν)
  /-- The keys and values of a map. -/
  pairs : ν → m (List (ν × ν))
  /-- The keys and values of a record with the given fields. -/
  fields : List String → ν → m (List (ν × ν))
  /-- The node as a JSON value. -/
  value : ν → m Json
  /-- Passes over a node that nobody asks for. -/
  skip : ν → m Unit

section

variable {m : Type → Type} [Monad m] [MonadExceptOf ReadFault m] {ν σ α : Type}

/-- A value, or none where the node stands for an absent one. -/
def NodeReader.optional (r : NodeReader m ν) (read : ν → m α) (n : ν) : m (Option α) := do
  if ← r.isNull n then pure none else some <$> read n

/-- A value, or the default where the node stands for an absent one. -/
def NodeReader.orDefault [Inhabited α] (r : NodeReader m ν) (read : ν → m α) (n : ν) : m α := do
  return (← r.optional read n).getD default

def NodeReader.texts (r : NodeReader m ν) (n : ν) : m (List String) := do
  (← r.items n).mapM r.text

def NodeReader.values (r : NodeReader m ν) (n : ν) : m (List Json) := do
  (← r.items n).mapM r.value

/-- A map whose values are read by `read`; the last value for a key counts. -/
def NodeReader.keyMap (r : NodeReader m ν) (read : ν → m α) (n : ν) : m (KeyMap α) := do
  (← r.pairs n).foldlM (fun map pair => do
    let key ← r.text pair.1
    return KeyMap.insert key (← read pair.2) map) []

/-- The fields of a record: a name, and what its node adds to the record. -/
abbrev Fields (m : Type → Type) (ν σ : Type) := List (String × (ν → σ → m σ))

/-- One entry of a record taken into account.  `seen` lists the fields that were given before. -/
def NodeReader.entry (r : NodeReader m ν) (fields : Fields m ν σ) (seen : List String) (record : σ)
    (pair : ν × ν) : m (List String × σ) := do
  let name ← r.text pair.1
  match fields.lookup name with
  | none => do
    r.skip pair.2
    return (seen, record)
  | some read =>
    if name ∈ seen then throw .invalid
    else return (name :: seen, ← read pair.2 record)

/-- A record, starting from one with all its defaults. -/
def NodeReader.record (r : NodeReader m ν) (fields : Fields m ν σ) (empty : σ) (n : ν) : m σ := do
  let entries ← r.fields (fields.map Prod.fst) n
  return (← entries.foldlM (fun state pair => r.entry fields state.1 state.2 pair) ([], empty)).2

end

/-! ## JSON documents -/

/-- JSON values as documents.  A list stands for a record whose fields come in order. -/
def ofJson : NodeReader (Except ReadFault) Json where
  isNull n := pure (match n with | .null => true | _ => false)
  text n := match n with | .text s => pure s | _ => throw .invalid
  items n := match n with | .list items => pure items | _ => throw .invalid
  pairs n := match n with
    | .object members => pure (members.map fun pair => (.text pair.1, pair.2))
    | _ => throw .invalid
  fields names n := match n with
    | .object members => pure (members.map fun pair => (.text pair.1, pair.2))
    | .list items =>
      let given := (names.zip items).map fun pair => (Json.text pair.1, pair.2)
      pure (given ++ (items.drop names.length).map fun item => (Json.null, item))
    | _ => throw .invalid
  value n := pure n
  skip _ := pure ()

end LoginGate.Policy
