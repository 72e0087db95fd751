import Mathlib.Logic.Relation
import LoginGate.Proofs.Access.RuleUnions
import LoginGate.Proofs.Policy.Joining

/-!
# Rules that are changed, and the requests that pass

A joined policy lets a request pass if an entry of its ignored requests covers it, and neither an
entry of its required requests nor one of its own paths does:

    p.compiled endpoints target = .ok c → (c.bypasses q = true ↔ p.LetsPass q)       (bypasses_iff)

Three kinds of change to the rules, in any number and order, follow from this: writing down the same
rules in another way keeps the requests that pass, more required rules add none, and more ignored
rules take none away (`bypasses_of_changes`).
-/

namespace LoginGate.Policy

open LoginGate.Access

variable {p n : Policy} {q : Request}

/-- Does an entry of the required requests or a path of the login itself cover the request? -/
def NeedsLogin (p : Policy) (q : Request) : Prop :=
  Covered AuthRule.matcher p.spec.authRules q ∨ (Matcher.anyMethod p.login.ownPaths).Covers q

def LetsPass (p : Policy) (q : Request) : Prop :=
  Covered id p.spec.ignoreRules q ∧ ¬ p.NeedsLogin q

theorem bypasses_iff {endpoints : Endpoints} {target : NetworkTarget} {c : CompiledPolicy}
    (h : p.compiled endpoints target = .ok c) : c.bypasses q = true ↔ p.LetsPass q := by
  obtain ⟨hignore, hrequire, hown⟩ := rules_of_compiled h
  have hneeds : anyApplies c.require q = true ↔ p.NeedsLogin q := by
    rw [hrequire, hown, anyApplies_ruleTable]
    simp only [authMatchers, List.mem_append, List.mem_map, List.mem_singleton, or_and_right,
      exists_or, exists_eq_left, exists_exists_and_eq_and]
    rfl
  rw [CompiledPolicy.bypasses, Bool.and_eq_true, Bool.not_eq_true', ← Bool.not_eq_true, hneeds,
    hignore, anyApplies_ruleTable]
  rfl

/-! ## Changes to a policy -/

/-- The same rules, written down in another way. -/
inductive Regroups : Policy → Policy → Prop
  | ignored {p : Policy} {entries : List Matcher} : Regrouped id p.spec.ignoreRules entries →
      Regroups p { p with spec.ignoreRules := entries }
  | required {p : Policy} {entries : List AuthRule} :
      Regrouped AuthRule.matcher p.spec.authRules entries →
      Regroups p { p with spec.authRules := entries }

/-- One entry or path more among the required requests, or a path for the login where there was
none. -/
inductive Restricts : Policy → Policy → Prop
  | required {p : Policy} {entries : List AuthRule} :
      Widened AuthRule.matcher p.spec.authRules entries →
      Restricts p { p with spec.authRules := entries }
  | login {p : Policy} {path : String} : p.login.loginPath = none →
      Restricts p
        { p with spec.autoLogin := some { p.spec.autoLogin.getD {} with loginPath := some path } }

/-- One entry or path more among the ignored requests. -/
inductive Opens : Policy → Policy → Prop
  | ignored {p : Policy} {entries : List Matcher} : Widened id p.spec.ignoreRules entries →
      Opens p { p with spec.ignoreRules := entries }

theorem Regroups.letsPass_iff (h : Regroups p n) : n.LetsPass q ↔ p.LetsPass q := by
  cases h with
  | ignored h => exact and_congr_left fun _ => h.covered_iff q
  | required h => exact and_congr_right fun _ => not_congr (or_congr_left (h.covered_iff q))

/-- A path of the login itself stays one when the login gets a path. -/
theorem mem_ownPaths_loginPath {path other : String} (hnone : p.login.loginPath = none)
    (hmem : other ∈ p.login.ownPaths) :
    other ∈ Login.ownPaths
      (.ofSection (some { p.spec.autoLogin.getD {} with loginPath := some path })) := by
  rw [Login.ownPaths, hnone, Option.toList_none, List.append_nil] at hmem
  exact List.mem_append_left _ hmem

theorem Restricts.letsPass (h : Restricts p n) (hn : n.LetsPass q) : p.LetsPass q := by
  refine ⟨?_, fun hneeds => hn.2 ?_⟩
  · cases h <;> exact hn.1
  · cases h with
    | required h => exact hneeds.imp_left h.covered
    | login hnone =>
      exact hneeds.imp_right fun hown =>
        hown.of_subset (fun _ => mem_ownPaths_loginPath hnone) rfl

theorem Opens.letsPass (h : Opens p n) (hp : p.LetsPass q) : n.LetsPass q := by
  cases h with
  | ignored h => exact ⟨h.covered hp.1, hp.2⟩

/-! ## Runs of changes -/

/-- Rules written down in another way, any number of times. -/
theorem letsPass_iff_of_regroups (h : Relation.EqvGen Regroups p n) :
    n.LetsPass q ↔ p.LetsPass q := by
  induction h with
  | rel p n h => exact h.letsPass_iff
  | refl p => exact Iff.rfl
  | symm p n _ ih => exact ih.symm
  | trans p m n _ _ ih ih' => exact ih'.trans ih

/-- Required rules added, and rules written down in another way. -/
theorem letsPass_of_restricts
    (h : Relation.ReflTransGen (fun p n => Relation.EqvGen Regroups p n ∨ Restricts p n) p n)
    (hn : n.LetsPass q) : p.LetsPass q := by
  induction h with
  | refl => exact hn
  | tail _ step ih =>
    rcases step with step | step
    · exact ih ((letsPass_iff_of_regroups step).1 hn)
    · exact ih (step.letsPass hn)

/-- Ignored rules added, and rules written down in another way. -/
theorem letsPass_of_opens
    (h : Relation.ReflTransGen (fun p n => Relation.EqvGen Regroups p n ∨ Opens p n) p n)
    (hp : p.LetsPass q) : n.LetsPass q := by
  induction h with
  | refl => exact hp
  | tail _ step ih =>
    rcases step with step | step
    · exact (letsPass_iff_of_regroups step).2 ih
    · exact step.letsPass ih

/-- **The requests that pass depend on the rules only as a whole.**  Of two policies that are
accepted, with whatever providers: if they differ in how their rules are written down, the same
requests pass; if the second has more required rules or a path for the login besides, no request
passes that did not; and if it has more ignored rules besides, each request passes that did. -/
theorem bypasses_of_changes {endpoints endpoints' : Endpoints} {target target' : NetworkTarget}
    {c c' : CompiledPolicy} (h : p.compiled endpoints target = .ok c)
    (h' : n.compiled endpoints' target' = .ok c') :
    (Relation.EqvGen Regroups p n → ∀ q, c'.bypasses q = c.bypasses q) ∧
    (Relation.ReflTransGen (fun p n => Relation.EqvGen Regroups p n ∨ Restricts p n) p n →
      ∀ q, c'.bypasses q = true → c.bypasses q = true) ∧
    (Relation.ReflTransGen (fun p n => Relation.EqvGen Regroups p n ∨ Opens p n) p n →
      ∀ q, c.bypasses q = true → c'.bypasses q = true) := by
  refine ⟨fun hsame q => ?_, fun hmore q => ?_, fun hmore q => ?_⟩
  · rw [Bool.eq_iff_iff, bypasses_iff h', bypasses_iff h]
    exact letsPass_iff_of_regroups hsame
  · rw [bypasses_iff h', bypasses_iff h]
    exact letsPass_of_restricts hmore
  · rw [bypasses_iff h', bypasses_iff h]
    exact letsPass_of_opens hmore

/-- A policy with the given rules and no more. -/
def ofRules (ignored : List Matcher) (required : List AuthRule) : Policy where
  spec := { ignoreRules := ignored, authRules := required }

/-- Two ignored paths: in two entries, one of them required, and a third one ignored. -/
theorem bypasses_of_changes_paths :
    ∃ c split fewer more,
      (ofRules [⟨["/a", "/b"], ["GET"]⟩] []).compiled default default = .ok c ∧
      (ofRules [⟨["/b"], ["GET"]⟩, ⟨["/a"], ["GET"]⟩] []).compiled default default = .ok split ∧
      (ofRules [⟨["/a", "/b"], ["GET"]⟩] [⟨.anyMethod ["/b"], none⟩]).compiled default default =
        .ok fewer ∧
      (ofRules [⟨["/a", "/b", "/c"], ["GET"]⟩] []).compiled default default = .ok more ∧
      (∀ q, split.bypasses q = c.bypasses q) ∧
      (∀ q, fewer.bypasses q = true → c.bypasses q = true) ∧
      (∀ q, c.bypasses q = true → more.bypasses q = true) := by
  obtain ⟨c, hc⟩ := exists_compiled (p := ofRules [⟨["/a", "/b"], ["GET"]⟩] []) rfl default default
  obtain ⟨split, hsplit⟩ := exists_compiled
    (p := ofRules [⟨["/b"], ["GET"]⟩, ⟨["/a"], ["GET"]⟩] []) rfl default default
  obtain ⟨fewer, hfewer⟩ := exists_compiled
    (p := ofRules [⟨["/a", "/b"], ["GET"]⟩] [⟨.anyMethod ["/b"], none⟩]) rfl default default
  obtain ⟨more, hmore⟩ := exists_compiled
    (p := ofRules [⟨["/a", "/b", "/c"], ["GET"]⟩] []) rfl default default
  refine ⟨c, split, fewer, more, hc, hsplit, hfewer, hmore, ?_, ?_, ?_⟩
  · have hparts : Regrouped id [⟨["/a", "/b"], ["GET"]⟩] [⟨["/a"], ["GET"]⟩, ⟨["/b"], ["GET"]⟩] :=
      @Regrouped.split _ id [] [] [⟨["/a"], ["GET"]⟩, ⟨["/b"], ["GET"]⟩] ⟨["/a", "/b"], ["GET"]⟩
        rfl (by decide)
    have hswap : Regrouped id [⟨["/a"], ["GET"]⟩, ⟨["/b"], ["GET"]⟩]
        [⟨["/b"], ["GET"]⟩, ⟨["/a"], ["GET"]⟩] := .permuted (.swap ..)
    exact (bypasses_of_changes hc hsplit).1 (.trans _ _ _ (.rel _ _ (.ignored hparts))
      (.rel _ _ (.ignored hswap)))
  · have hentry : Widened AuthRule.matcher [] [⟨.anyMethod ["/b"], none⟩] :=
      @Widened.entry _ _ [] [] _
    exact (bypasses_of_changes hc hfewer).2.1 (.single (.inr (.required hentry)))
  · have hpath : Widened id [⟨["/a", "/b"], ["GET"]⟩] [⟨["/a", "/b", "/c"], ["GET"]⟩] :=
      @Widened.paths _ id [] [] ⟨["/a", "/b"], ["GET"]⟩ ⟨["/a", "/b", "/c"], ["GET"]⟩
        (by decide) rfl
    exact (bypasses_of_changes hc hmore).2.2 (.single (.inr (.ignored hpath)))

end LoginGate.Policy
