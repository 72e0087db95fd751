import LoginGate.Policy.Document
import LoginGate.CompileError

/-!
# The fields of a policy

`read` takes a policy from the root node of a document, `ofJsonValue` from a JSON value.
-/

namespace LoginGate.Policy

/-! ## Rules -/

def matcherFields : Fields (Except ReadFault) Json Access.Matcher :=
  [("paths", fun n m => do return { m with paths := ← ofJson.orDefault ofJson.texts n }),
   ("methods", fun n m => do return { m with methods := ← ofJson.orDefault ofJson.texts n })]

def readMatcher : Json → Except ReadFault Access.Matcher := ofJson.record matcherFields ⟨[], []⟩

/-- The fields of a rule: those of its matcher, and the claims it asks for. -/
def authRuleFields : Fields (Except ReadFault) Json AuthRule :=
  (matcherFields.map fun field => (field.1, fun n rule => do
    return { rule with matcher := ← field.2 n rule.matcher })) ++
  [("when", fun n rule => do return { rule with condition := ← ofJson.optional ofJson.value n })]

def readAuthRule : Json → Except ReadFault AuthRule := ofJson.record authRuleFields ⟨⟨[], []⟩, none⟩

/-- The login parameter that a scalar stands for. -/
def scalarText? : Json → Option String
  | .text s => some s
  | .number n => some (String.ofList n.text)
  | .bool true => some "true"
  | .bool false => some "false"
  | .null => some ""
  | _ => none

/-- The texts of login parameters; the first that is no scalar, in the order of the keys, is the
fault. -/
def scalarTexts (map : KeyMap Json) : Except ReadFault (KeyMap String) :=
  map.mapM fun pair =>
    match scalarText? pair.2 with
    | some s => .ok (pair.1, s)
    | none => .error (.parameterNotScalar pair.1 pair.2)

/-! ## Sections -/

section

variable {m : Type → Type} [Monad m] [MonadExceptOf ReadFault m] {ν α : Type}

/-- The objects of a list, read as rules; other entries are dropped. -/
def readRules (r : NodeReader m ν) (read : Json → Except ReadFault α) (n : ν) : m (List α) := do
  let entries ← r.orDefault r.values n
  match (entries.filter Json.isObject).mapM read with
  | .ok rules => return rules
  | .error _ => throw .invalid

def readParameters (r : NodeReader m ν) (n : ν) : m (KeyMap String) := do
  match scalarTexts (← r.orDefault (r.keyMap r.value) n) with
  | .ok parameters => return parameters
  | .error fault => throw fault

def autoLoginFields (r : NodeReader m ν) : Fields m ν AutoLogin :=
  [("loginPath", fun n s => do return { s with loginPath := ← r.optional r.text n }),
   ("redirectPath", fun n s => do return { s with redirectPath := ← r.optional r.text n }),
   ("logoutPath", fun n s => do return { s with logoutPath := ← r.optional r.text n }),
   ("loginParams", fun n s => do return { s with loginParams := ← readParameters r n }),
   ("postLogoutRedirectUri", fun n s => do
      return { s with postLogoutRedirectURI := ← r.optional r.text n }),
   ("scopes", fun n s => do return { s with scopes := ← r.optional r.texts n })]

def readAutoLogin (r : NodeReader m ν) : ν → m AutoLogin := r.record (autoLoginFields r) {}

def selectorFields (r : NodeReader m ν) : Fields m ν (KeyMap String) :=
  [("matchLabels", fun n _ => r.orDefault (r.keyMap r.text) n)]

def readSelector (r : NodeReader m ν) : ν → m (KeyMap String) := r.record (selectorFields r) []

def specFields (r : NodeReader m ν) : Fields m ν Spec :=
  [("wellKnownURI", fun n s => do return { s with wellKnownURI := ← r.orDefault r.text n }),
   ("ignoreAuthRules", fun n s => do return { s with ignoreRules := ← readRules r readMatcher n }),
   ("authRules", fun n s => do return { s with authRules := ← readRules r readAuthRule n }),
   ("autoLogin", fun n s => do return { s with autoLogin := ← r.optional (readAutoLogin r) n }),
   ("selector", fun n s => do return { s with matchLabels := ← r.orDefault (readSelector r) n }),
   ("acceptedResources", fun n s => do
      return { s with acceptedResources := ← r.optional r.value n })]

def readSpec (r : NodeReader m ν) : ν → m Spec := r.record (specFields r) {}

def metadataFields (r : NodeReader m ν) : Fields m ν Metadata :=
  [("name", fun n s => do return { s with name := ← r.optional r.text n }),
   ("namespace", fun n s => do return { s with namespaceName := ← r.optional r.text n })]

def readMetadata (r : NodeReader m ν) : ν → m Metadata := r.record (metadataFields r) {}

def policyFields (r : NodeReader m ν) : Fields m ν Policy :=
  [("apiVersion", fun n p => do return { p with apiVersion := ← r.optional r.text n }),
   ("kind", fun n p => do return { p with kind := ← r.optional r.text n }),
   ("metadata", fun n p => do return { p with metadata := ← r.orDefault (readMetadata r) n }),
   ("spec", fun n p => do return { p with spec := ← r.orDefault (readSpec r) n })]

def read (r : NodeReader m ν) : ν → m Policy := r.record (policyFields r) {}

end

def ReadFault.toError : ReadFault → CompileError
  | invalid => .configuration .documentInvalid
  | parameterNotScalar key found => .configuration (.parameterNotScalar key found)

/-- The policy that a JSON value holds. -/
def ofJsonValue (value : Json) : Except CompileError Policy :=
  (read ofJson value).mapError ReadFault.toError

end LoginGate.Policy
