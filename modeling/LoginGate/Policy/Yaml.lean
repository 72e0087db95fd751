import LoginGate.Policy.Read
import LoginGate.Yaml.Value

/-!
# Policies in YAML

`ofYamlText` reads the policy that is the one document of a text.
-/

namespace LoginGate.Policy

open LoginGate.Yaml

/-- Reading counts the aliases that it follows. -/
abbrev YamlRead := StateT Nat (Except ReadFault)

/-- What fails to be read is no part of a policy. -/
def orInvalid {α : Type} (x : Yaml.Read α) : YamlRead α := fun followed =>
  match x followed with
  | some result => .ok result
  | none => .error .invalid

def ofYaml (a : Aliases) : NodeReader YamlRead Place where
  isNull p := orInvalid (isAbsent a p.node)
  text p := orInvalid (nodeText a p.node)
  items p := orInvalid (placeItems a p)
  pairs p := orInvalid (placePairs a p)
  fields _ p := orInvalid (placePairs a p)
  value p := orInvalid (nodeValue a p.depth p.node)
  skip _ := pure ()

/-- The policy that a document holds; an empty text is an empty policy. -/
def ofDocument (d : Document) : Except ReadFault Policy := do
  let p ← match d.root with
    | none => pure {}
    | some n => (read (ofYaml d.aliases) ⟨Yaml.nestingLimit, n⟩).run' 0
  if d.sound then pure p else throw .invalid

/-- The policy that a text holds. -/
def ofYamlText (text : String) : Except CompileError Policy :=
  (ofDocument (.ofText text.toList)).mapError ReadFault.toError

end LoginGate.Policy
