import Mathlib.Data.List.TakeWhile
import LoginGate.Policy.Bypass
import LoginGate.Proofs.Access.PathMeaning
import LoginGate.Proofs.Access.SelfMatching
import LoginGate.Proofs.Policy.Joining

/-!
# Requests to the paths of the filter itself

Each path that the filter handles itself has a rule among the requests that need a login, so a
request to it does not pass, provided that the path matches itself.  Where it does not, a policy
that lets every request pass shows it:

    (∀ policies with q as an own path, no request to q passes) ↔ ¬ MissesItself q
                                                                      (ownPath_protected_iff)
-/

namespace LoginGate

open LoginGate.Access LoginGate.Text LoginGate.Lua PathToken

/-! ## Rules and requests -/

theorem anyApplies_iff (rules : List Rule) (q : Request) :
    anyApplies rules q = true ↔ ∃ r ∈ rules, r.appliesTo q = true := List.any_eq_true

/-- A rule without methods applies to whatever its pattern matches. -/
theorem appliesTo_of_methods_eq_nil {r : Rule} (h : r.methods = []) (q : Request) :
    r.appliesTo q = r.matchesPath q.path := by
  rw [Rule.appliesTo, Rule.hasMethod, h]
  exact Bool.and_true _

/-- A rule for every method that matches a path keeps all requests to it from passing. -/
theorem bypasses_eq_false {c : CompiledPolicy} {r : Rule} (hr : r ∈ c.require)
    (hm : r.methods = []) {q : Request} (h : r.matchesPath q.path = true) :
    c.bypasses q = false := by
  have : anyApplies c.require q = true :=
    (anyApplies_iff _ _).2 ⟨r, hr, (appliesTo_of_methods_eq_nil hm q).trans h⟩
  rw [CompiledPolicy.bypasses, this]
  exact Bool.and_false _

theorem matchesPath_compile (q : String) (path : List UInt8) :
    Rule.matchesPath ⟨compile q, []⟩ path = finds (utf8 (compileChars q.toList)) path := by
  rw [Rule.matchesPath, textBytes_compile]

/-- What an own path matches does not pass. -/
theorem own_rule_mem {p : Policy} {endpoints : Endpoints} {target : NetworkTarget}
    {c : CompiledPolicy} (h : p.compiled endpoints target = .ok c) {q : String}
    (hq : q ∈ c.ownPaths) : ⟨compile q, []⟩ ∈ c.require := by
  rw [Policy.require_of_compiled h]
  exact List.mem_append_right _ (List.mem_map_of_mem hq)

/-! ## A policy that lets every request pass -/

/-- Every request passes, but for those to one path, which the filter handles itself. -/
def Policy.openBut (q : String) : Policy where
  spec :=
    { ignoreRules := [.anyMethod ["/*"]]
      autoLogin := some { redirectPath := some q, logoutPath := some q } }

theorem ownPaths_openBut {q : String} (hq : q ≠ "") :
    (Policy.Login.ofSection (Policy.openBut q).spec.autoLogin).ownPaths = [q, q] := by
  have hn : Policy.nonEmpty (some q) = some q := if_pos (decide_eq_true hq)
  have hnone : Policy.nonEmpty none = none := rfl
  simp [Policy.openBut, Policy.Login.ofSection, Policy.Login.ownPaths, hn, hnone]

theorem exists_openBut {q : String} (hq : q ≠ "") (endpoints : Endpoints)
    (target : NetworkTarget) :
    ∃ c, (Policy.openBut q).compiled endpoints target = .ok c ∧ c.ownPaths = [q, q] ∧
      c.ignore = [⟨compile "/*", []⟩] ∧ c.require = [⟨compile q, []⟩, ⟨compile q, []⟩] := by
  have hcheck : (Policy.openBut q).check = .ok () := rfl
  obtain ⟨c, hc⟩ := Policy.exists_compiled hcheck endpoints target
  obtain ⟨hi, -, ho⟩ := Policy.rules_of_compiled hc
  rw [ownPaths_openBut hq] at ho
  refine ⟨c, hc, ho, ?_, ?_⟩
  · rw [hi]
    exact ruleTable_anyMethod _
  · rw [Policy.require_of_compiled hc, ho]
    rfl

/-- `/*` matches every path. -/
theorem finds_slash_star (s : List UInt8) :
    finds (utf8 (compileChars "/*".toList)) (47 :: s) = true := by
  have hc : "/*".toList.head? ≠ some '^' := by decide
  have hp : "/*".toList = ['/'] ++ ['*'] := by decide
  rw [finds_star hc _ hp (by decide)]
  exact ⟨s, rfl⟩

/-- Whatever the own path does not match passes. -/
theorem bypasses_openBut {q : String} {c : CompiledPolicy}
    (hi : c.ignore = [⟨compile "/*", []⟩]) (hr : c.require = [⟨compile q, []⟩, ⟨compile q, []⟩])
    {s : List UInt8} (h : finds (utf8 (compileChars q.toList)) (47 :: s) = false)
    (method : List UInt8) : c.bypasses ⟨47 :: s, method⟩ = true := by
  have h1 : anyApplies c.ignore ⟨47 :: s, method⟩ = true := by
    rw [hi, anyApplies_iff]
    refine ⟨_, List.mem_singleton_self _, ?_⟩
    rw [appliesTo_of_methods_eq_nil rfl, matchesPath_compile]
    exact finds_slash_star s
  have h2 : anyApplies c.require ⟨47 :: s, method⟩ = false := by
    rw [hr, anyApplies, List.any_eq_false]
    intro r hm
    obtain rfl : r = ⟨compile q, []⟩ := by simpa using hm
    rw [appliesTo_of_methods_eq_nil rfl, matchesPath_compile, h]
    exact Bool.false_ne_true
  rw [CompiledPolicy.bypasses, h1, h2]
  rfl

/-! ## The result -/

/-- Does every policy that is accepted and has `q` as an own path give what satisfies `P`? -/
def EveryOwner (q : String) (P : CompiledPolicy → Prop) : Prop :=
  ∀ p endpoints target c, Policy.compiled p endpoints target = .ok c → q ∈ c.ownPaths → P c

/-- What holds of a policy that lets all else pass. -/
theorem EveryOwner.openBut {q : String} {P : CompiledPolicy → Prop} (hq : q ≠ "")
    (h : EveryOwner q P) : ∃ c, P c ∧ c.ignore = [⟨compile "/*", []⟩] ∧
      c.require = [⟨compile q, []⟩, ⟨compile q, []⟩] := by
  obtain ⟨c, hc, ho, hi, hr⟩ := exists_openBut hq default default
  exact ⟨c, h _ _ _ c hc (by simp [ho]), hi, hr⟩

/-- A request to what the own path does not match passes in some policy. -/
theorem finds_of_everyOwner {q : String} (hq : q ≠ "") {s method : List UInt8}
    (h : EveryOwner q fun c => c.bypasses ⟨47 :: s, method⟩ = false) :
    finds (utf8 (compileChars q.toList)) (47 :: s) = true := by
  obtain ⟨c, hc, hi, hr⟩ := h.openBut hq
  by_contra hf
  rw [bypasses_openBut hi hr (Bool.eq_false_iff.2 hf) method] at hc
  cases hc

theorem everyOwner_bypasses {q : String} {path : List UInt8}
    (h : finds (utf8 (compileChars q.toList)) path = true) (method : List UInt8) :
    EveryOwner q fun c => c.bypasses ⟨path, method⟩ = false := by
  intro p endpoints target c hc hq
  refine bypasses_eq_false (own_rule_mem hc hq) rfl ?_
  rw [matchesPath_compile, h]

/-- **Requests to the paths of the filter itself.**  Let `q` start with a slash.  In every policy
where the filter handles `q` itself, a rule for every method matches it, and no request to it
passes, exactly if `q` matches itself.  A request target loses its query first, so where `q` has a
question mark no request target is `q`, and the one that is written like it can pass. -/
theorem ownPath_protected_iff {q : String} (hq : q.toList.head? = some '/') :
    (EveryOwner q (fun c => ∃ r ∈ c.require, r.methods = [] ∧ r.matchesPath (textBytes q) = true) ↔
      ¬ MissesItself q.toList) ∧
    ∀ method,
      (EveryOwner q (fun c => c.bypasses ⟨textBytes q, method⟩ = false) ↔
        ¬ MissesItself q.toList) ∧
      (EveryOwner q (fun c => c.bypasses (.ofTarget (textBytes q) method) = false) ↔
        '?' ∉ q.toList ∧ ¬ MissesItself q.toList) := by
  have hself : finds (utf8 (compileChars q.toList)) (textBytes q) = true ↔
      ¬ MissesItself q.toList := finds_self_iff hq
  have hne : q ≠ "" := by
    rintro rfl
    cases hq
  obtain ⟨rest, hl⟩ := List.head?_eq_some_iff.1 hq
  have hb : textBytes q = 47 :: utf8 rest := by
    rw [textBytes, hl]
    rfl
  have hpath : ∀ method, EveryOwner q (fun c => c.bypasses ⟨textBytes q, method⟩ = false) ↔
      ¬ MissesItself q.toList := by
    intro method
    rw [← hself]
    refine ⟨fun h => ?_, fun h => everyOwner_bypasses h method⟩
    rw [hb] at h ⊢
    exact finds_of_everyOwner hne h
  refine ⟨⟨fun h => ?_, fun h p endpoints target c hc hown => ?_⟩, fun method => ⟨hpath method, ?_⟩⟩
  · obtain ⟨c, ⟨r, hm, -, hr⟩, -, hc⟩ := h.openBut hne
    rw [hc] at hm
    obtain rfl : r = ⟨compile q, []⟩ := by simpa using hm
    rwa [matchesPath_compile, hself] at hr
  · refine ⟨_, own_rule_mem hc hown, rfl, ?_⟩
    rwa [matchesPath_compile, hself]
  · have htarget : Request.ofTarget (textBytes q) method =
        ⟨47 :: (utf8 rest).takeWhile (· ≠ 63), method⟩ := by
      rw [hb]
      rfl
    by_cases hm : '?' ∈ q.toList
    · refine iff_of_false (fun h => ?_) fun h => h.1 hm
      rw [htarget] at h
      have hmem := mem_of_finds hq hm (finds_of_everyOwner hne h)
      rcases List.mem_cons.1 hmem with hmem | hmem
      · exact absurd hmem (by decide)
      · exact absurd (List.mem_takeWhile_imp hmem) (by decide)
    · have hnm : 63 ∉ textBytes q := fun h => hm ((mem_utf8_iff (d := '?') (by decide) _).1 h)
      have hall : Request.ofTarget (textBytes q) method = ⟨textBytes q, method⟩ := by
        rw [Request.ofTarget, List.takeWhile_eq_self_iff.2]
        intro b hmb
        refine decide_eq_true ?_
        rintro rfl
        exact hnm hmb
      rw [hall, hpath method]
      exact (and_iff_right hm).symm

/-- A callback path of this form is one that every request passes to. -/
theorem not_protected_dollar :
    "/a*b$".toList.head? = some '/' ∧
      ¬ EveryOwner "/a*b$" (fun c => c.bypasses ⟨textBytes "/a*b$", textBytes "GET"⟩ = false) := by
  have hq : "/a*b$".toList.head? = some '/' := by decide +kernel
  have hm : MissesItself "/a*b$".toList :=
    ⟨by decide +kernel, [literal '/', literal 'a', bareStar, literal 'b'], by decide +kernel,
      [literal '/', literal 'a', bareStar], 'b', 0, by decide, rfl⟩
  exact ⟨hq, fun h => (((ownPath_protected_iff hq).2 _).1.1 h) hm⟩

end LoginGate
