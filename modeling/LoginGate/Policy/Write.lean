import LoginGate.Policy.Basic

/-!
# Policies as JSON values

`toJson` writes every field that is set; the two rule lists, the metadata, the labels, and the paths
and methods of a rule are always there.
-/

namespace LoginGate.Policy

def textList (texts : List String) : Json := .list (texts.map .text)

/-- A field for a value that may be absent. -/
def optionalField (name : String) (value : Option Json) : List (String × Json) :=
  match value with
  | some v => [(name, v)]
  | none => []

/-- The fields of a matcher. -/
def matcherMembers (m : Access.Matcher) : List (String × Json) :=
  [("paths", textList m.paths), ("methods", textList m.methods)]

def AuthRule.toJson (rule : AuthRule) : Json :=
  .ofMembers (matcherMembers rule.matcher ++ optionalField "when" rule.condition)

def AutoLogin.toJson (s : AutoLogin) : Json :=
  .ofMembers (optionalField "loginPath" (s.loginPath.map .text) ++
    optionalField "redirectPath" (s.redirectPath.map .text) ++
    optionalField "logoutPath" (s.logoutPath.map .text) ++
    [("loginParams", .object (KeyMap.mapValues .text s.loginParams))] ++
    optionalField "postLogoutRedirectUri" (s.postLogoutRedirectURI.map .text) ++
    optionalField "scopes" (s.scopes.map textList))

def Spec.toJson (s : Spec) : Json :=
  .ofMembers ([("wellKnownURI", .text s.wellKnownURI),
      ("ignoreAuthRules", .list (s.ignoreRules.map fun m => .ofMembers (matcherMembers m))),
      ("authRules", .list (s.authRules.map AuthRule.toJson))] ++
    optionalField "autoLogin" (s.autoLogin.map AutoLogin.toJson) ++
    [("selector", .ofMembers
      [("matchLabels", .object (KeyMap.mapValues .text s.matchLabels))])] ++
    optionalField "acceptedResources" s.acceptedResources)

def Metadata.toJson (m : Metadata) : Json :=
  .ofMembers (optionalField "name" (m.name.map .text) ++
    optionalField "namespace" (m.namespaceName.map .text))

def toJson (p : Policy) : Json :=
  .ofMembers (optionalField "apiVersion" (p.apiVersion.map .text) ++
    optionalField "kind" (p.kind.map .text) ++
    [("metadata", p.metadata.toJson), ("spec", p.spec.toJson)])

end LoginGate.Policy
