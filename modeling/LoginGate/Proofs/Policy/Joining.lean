import LoginGate.Policy.Compiled
import LoginGate.Proofs.Access.RuleTables
import LoginGate.Proofs.Checks

/-!
# Joining a policy with its provider

A policy is joined with any endpoints and any target when it is accepted, and only then.  The paths
that the filter handles itself come last among the requests that need a login, for every method:

    (p.compiled endpoints target).map (fun _ => ()) = p.check                    (compiled_map)
    p.compiled endpoints target = .ok c →
      c.require = ruleTable p.authMatchers ++ c.ownPaths.map fun q => ⟨compile q, []⟩
                                                                         (require_of_compiled)
-/

namespace LoginGate

open LoginGate.Access

/-- The paths that the filter handles itself: redirect, logout, and login where there is one. -/
def CompiledPolicy.ownPaths (c : CompiledPolicy) : List String :=
  [c.redirectPath, c.logoutPath] ++ c.loginPath.toList

theorem ruleTable_append (one other : List Matcher) :
    ruleTable (one ++ other) = ruleTable one ++ ruleTable other := List.flatMap_append

theorem ruleTable_anyMethod (paths : List String) :
    ruleTable [.anyMethod paths] = paths.map fun path => ⟨compile path, []⟩ := by
  simp [ruleTable, Matcher.rules, Matcher.anyMethod]

namespace Policy

variable {p : Policy} {endpoints : Endpoints} {target : NetworkTarget} {c : CompiledPolicy}

/-- Joining fails exactly when the policy is not accepted, with the same error. -/
theorem compiled_map (p : Policy) (endpoints : Endpoints) (target : NetworkTarget) :
    (p.compiled endpoints target).map (fun _ => ()) = p.check := by
  unfold compiled check
  cases p.checkRulePaths with
  | error e => rfl
  | ok _ => cases resourceTexts p.spec.acceptedResources <;> rfl

theorem exists_compiled (h : p.check = .ok ()) (endpoints : Endpoints) (target : NetworkTarget) :
    ∃ c, p.compiled endpoints target = .ok c := by
  have hm := compiled_map p endpoints target
  rw [h] at hm
  cases hc : p.compiled endpoints target with
  | error e =>
    rw [hc] at hm
    cases hm
  | ok c => exact ⟨c, rfl⟩

/-- The rules and the own paths of a joined policy. -/
theorem rules_of_compiled (h : p.compiled endpoints target = .ok c) :
    c.ignore = ruleTable p.spec.ignoreRules ∧
    c.require = ruleTable (p.authMatchers ++ [.anyMethod c.ownPaths]) ∧
    c.ownPaths = (Login.ofSection p.spec.autoLogin).ownPaths := by
  obtain ⟨_, -, h⟩ := bind_eq_ok_iff.1 h
  obtain ⟨_, -, h⟩ := bind_eq_ok_iff.1 h
  obtain rfl := Except.ok.inj h
  exact ⟨rfl, rfl, rfl⟩

def login (p : Policy) : Login := .ofSection p.spec.autoLogin

/-- What a joined policy has from its provider and from its login. -/
theorem fields_of_compiled (h : p.compiled endpoints target = .ok c) :
    c.endpoints = endpoints ∧ c.target = target ∧ c.redirectPath = p.login.redirectPath ∧
    c.logoutPath = p.login.logoutPath := by
  obtain ⟨_, -, h⟩ := bind_eq_ok_iff.1 h
  obtain ⟨_, -, h⟩ := bind_eq_ok_iff.1 h
  obtain rfl := Except.ok.inj h
  exact ⟨rfl, rfl, rfl, rfl⟩

theorem require_of_compiled (h : p.compiled endpoints target = .ok c) :
    c.require = ruleTable p.authMatchers ++ c.ownPaths.map fun q => ⟨compile q, []⟩ := by
  rw [(rules_of_compiled h).2.1, ruleTable_append, ruleTable_anyMethod]

theorem getD_nonEmpty_ne {s : Option String} {default : String} (h : default ≠ "") :
    (nonEmpty s).getD default ≠ "" := by
  cases hs : nonEmpty s with
  | none => exact h
  | some t => exact of_decide_eq_true (Option.filter_eq_some_iff.1 hs).2

theorem redirectPath_ne (p : Policy) : p.login.redirectPath ≠ "" :=
  getD_nonEmpty_ne (by decide)

theorem logoutPath_ne (p : Policy) : p.login.logoutPath ≠ "" :=
  getD_nonEmpty_ne (by decide)

/-- The number of rules that a policy declares for requests that need a login. -/
def declaredRules (p : Policy) : Nat := (declarations p.authMatchers).length

/-- The rules for the paths that the filter handles itself stand behind the declared ones. -/
theorem getElem?_require_of_compiled (h : p.compiled endpoints target = .ok c) (i : Nat) :
    c.require[p.declaredRules + i]? = c.ownPaths[i]?.map fun q => ⟨compile q, []⟩ := by
  have hlength : (ruleTable p.authMatchers).length = p.declaredRules := by
    rw [ruleTable_eq_map, List.length_map, declaredRules]
  rw [require_of_compiled h, List.getElem?_append_right (by omega), hlength,
    Nat.add_sub_cancel_left, List.getElem?_map]

end Policy

end LoginGate
