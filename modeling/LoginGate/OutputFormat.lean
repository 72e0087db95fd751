import LoginGate.Text.Numeral

/-!
# Formats of the document
-/

namespace LoginGate

open LoginGate.Text

inductive OutputFormat where
  | yaml
  | json
  deriving DecidableEq, Repr, Inhabited

namespace OutputFormat

def name : OutputFormat → String
  | yaml => "yaml"
  | json => "json"

/-- The format that a word asks for, in any case. -/
def ofWord? (word : String) : Option OutputFormat :=
  let lower := String.ofList (lowerAscii word.toList)
  if lower = "yaml" ∨ lower = "yml" then some yaml
  else if lower = "json" then some json
  else none

end OutputFormat

end LoginGate
