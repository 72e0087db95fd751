import LoginGate.Access.PathGrammar
import LoginGate.Lua.Literal

/-!
# Rules and rule tables

A matcher lists paths and methods; no methods means every method.  `ruleTable` makes one rule of
each path of each matcher, in order, and `ruleTableText` writes the rules as the Lua table that the
script walks through.
-/

namespace LoginGate.Access

/-- Requests by path and method. -/
structure Matcher where
  paths : List String
  methods : List String
  deriving DecidableEq, Repr, Inhabited

def Matcher.anyMethod (paths : List String) : Matcher := ⟨paths, []⟩

/-- The fault of the first path that has one, and that path. -/
def checkMatchers (matchers : List Matcher) : Except (String × PathFault) Unit :=
  (matchers.flatMap Matcher.paths).forM fun path =>
    (check path).mapError fun fault => (path, fault)

/-- A pattern and the methods that it applies to; no methods means every method. -/
structure Rule where
  pattern : String
  methods : List String
  deriving DecidableEq, Repr, Inhabited

/-- The rules of a matcher, one for each path; a method named twice keeps its first place. -/
def Matcher.rules (m : Matcher) : List Rule :=
  m.paths.map fun path => ⟨compile path, m.methods.eraseDups⟩

def ruleTable (matchers : List Matcher) : List Rule := matchers.flatMap Matcher.rules

/-- A rule as a Lua table. -/
def Rule.text (r : Rule) : String :=
  Lua.table ["regex=" ++ Lua.quote r.pattern, "methods=" ++ Lua.stringSet r.methods]

def ruleTableText (rules : List Rule) : String := Lua.table (rules.map Rule.text)

end LoginGate.Access
