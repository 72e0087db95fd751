import LoginGate.Proofs.Access.RuleTables
import LoginGate.Policy.Bypass

/-!
# What a list of rules covers

The rules of some entries apply to a request if and only if one entry has a path that matches it and
a method for it:

    anyApplies (ruleTable matchers) q = true ↔ ∃ m ∈ matchers, m.Covers q   (anyApplies_ruleTable)

So neither order nor repetition nor grouping counts (`Regrouped.covered_iff`), and more entries and
more paths never cover less (`Widened.covered`).
-/

namespace LoginGate.Access

open LoginGate.Text

/-! ## Requests that an entry covers -/

/-- Does a path of the entry match the request, and is its method one of the entry's? -/
def Matcher.Covers (m : Matcher) (q : Request) : Prop :=
  (∃ path ∈ m.paths, Lua.finds (textBytes (compile path)) q.path = true) ∧
    (m.methods = [] ∨ ∃ method ∈ m.methods, textBytes method = q.method)

theorem hasMethod_eraseDups (pattern : String) (methods : List String) (method : List UInt8) :
    Rule.hasMethod ⟨pattern, methods.eraseDups⟩ method = true ↔
      methods = [] ∨ ∃ m ∈ methods, textBytes m = method := by
  have hempty : methods.eraseDups.isEmpty = true ↔ methods = [] := by
    rw [List.isEmpty_iff]
    refine ⟨fun h => ?_, fun h => by rw [h, List.eraseDups_nil]⟩
    cases methods with
    | nil => rfl
    | cons m methods =>
      have hm : m ∈ (m :: methods).eraseDups := List.mem_eraseDups.2 List.mem_cons_self
      rw [h] at hm
      cases hm
  simp only [Rule.hasMethod, Bool.or_eq_true, hempty, List.any_eq_true, List.mem_eraseDups,
    beq_iff_eq]

theorem anyApplies_rules (m : Matcher) (q : Request) :
    anyApplies m.rules q = true ↔ m.Covers q := by
  simp only [anyApplies, Matcher.rules, List.any_map, List.any_eq_true, Function.comp_apply,
    Rule.appliesTo, Bool.and_eq_true, hasMethod_eraseDups, Matcher.Covers, Rule.matchesPath]
  constructor
  · rintro ⟨path, hp, hmatch, hmethod⟩
    exact ⟨⟨path, hp, hmatch⟩, hmethod⟩
  · rintro ⟨⟨path, hp, hmatch⟩, hmethod⟩
    exact ⟨path, hp, hmatch, hmethod⟩

/-- **What the rules of some entries apply to.** -/
theorem anyApplies_ruleTable (matchers : List Matcher) (q : Request) :
    anyApplies (ruleTable matchers) q = true ↔ ∃ m ∈ matchers, m.Covers q := by
  rw [anyApplies, ruleTable, List.any_flatMap, List.any_eq_true]
  refine exists_congr fun m => and_congr_right fun _ => ?_
  exact anyApplies_rules m q

/-- An entry covers what one with the same methods covers, if it has all of its paths. -/
theorem Matcher.Covers.of_subset {m n : Matcher} {q : Request} (h : m.Covers q)
    (hpaths : ∀ path ∈ m.paths, path ∈ n.paths) (hmethods : n.methods = m.methods) :
    n.Covers q := by
  obtain ⟨⟨path, hp, hmatch⟩, hmethod⟩ := h
  exact ⟨⟨path, hpaths path hp, hmatch⟩, by rwa [hmethods]⟩

/-- Two entries with the same paths and the same methods, in any order and number. -/
theorem Matcher.covers_congr {m n : Matcher} (hpaths : ∀ path, path ∈ m.paths ↔ path ∈ n.paths)
    (hmethods : ∀ method, method ∈ m.methods ↔ method ∈ n.methods) (q : Request) :
    m.Covers q ↔ n.Covers q := by
  have hempty : m.methods = [] ↔ n.methods = [] := by
    rw [List.eq_nil_iff_forall_not_mem, List.eq_nil_iff_forall_not_mem]
    exact forall_congr' fun method => not_congr (hmethods method)
  simp only [Matcher.Covers, hpaths, hmethods, hempty]

/-! ## Lists of entries -/

section

variable {α : Type} {matcher : α → Matcher}

/-- Does one of the entries cover the request? -/
def Covered (matcher : α → Matcher) (entries : List α) (q : Request) : Prop :=
  ∃ a ∈ entries, (matcher a).Covers q

/-- What one entry among others covers. -/
theorem covered_append_cons {before after : List α} {a : α} {q : Request} :
    Covered matcher (before ++ a :: after) q ↔
      Covered matcher (before ++ after) q ∨ (matcher a).Covers q := by
  simp only [Covered, List.mem_append, List.mem_cons, or_and_right, exists_or, exists_eq_left]
  rw [← or_assoc, or_right_comm]

/-- Entries that differ in how the same rules are written down. -/
inductive Regrouped (matcher : α → Matcher) : List α → List α → Prop
  /-- Entries in another order. -/
  | permuted {one other : List α} : one.Perm other → Regrouped matcher one other
  /-- An entry given once more. -/
  | repeated {entries : List α} {a : α} : a ∈ entries → Regrouped matcher entries (a :: entries)
  /-- The paths and the methods of an entry in another order, or repeated. -/
  | reordered {before after : List α} {a b : α} :
      (∀ path, path ∈ (matcher a).paths ↔ path ∈ (matcher b).paths) →
      (∀ method, method ∈ (matcher a).methods ↔ method ∈ (matcher b).methods) →
      Regrouped matcher (before ++ a :: after) (before ++ b :: after)
  /-- An entry whose paths are given in several, all of them with its methods. -/
  | split {before after parts : List α} {a : α} :
      parts.flatMap (fun b => (matcher b).paths) = (matcher a).paths →
      (∀ b ∈ parts, (matcher b).methods = (matcher a).methods) →
      Regrouped matcher (before ++ a :: after) (before ++ parts ++ after)

/-- Entries of which the second ones have one entry more, or more paths in one entry. -/
inductive Widened (matcher : α → Matcher) : List α → List α → Prop
  | entry {before after : List α} {a : α} :
      Widened matcher (before ++ after) (before ++ a :: after)
  | paths {before after : List α} {a b : α} :
      (∀ path ∈ (matcher a).paths, path ∈ (matcher b).paths) →
      (matcher b).methods = (matcher a).methods →
      Widened matcher (before ++ a :: after) (before ++ b :: after)

theorem covered_parts_iff {parts : List α} {a : α}
    (hpaths : parts.flatMap (fun b => (matcher b).paths) = (matcher a).paths)
    (hmethods : ∀ b ∈ parts, (matcher b).methods = (matcher a).methods) (q : Request) :
    Covered matcher parts q ↔ (matcher a).Covers q := by
  constructor
  · rintro ⟨b, hb, hcovers⟩
    refine hcovers.of_subset (fun path hp => ?_) (hmethods b hb).symm
    rw [← hpaths]
    exact List.mem_flatMap.2 ⟨b, hb, hp⟩
  · rintro ⟨⟨path, hp, hmatch⟩, hmethod⟩
    rw [← hpaths] at hp
    obtain ⟨b, hb, hp⟩ := List.mem_flatMap.1 hp
    exact ⟨b, hb, ⟨path, hp, hmatch⟩, by rwa [hmethods b hb]⟩

/-- **Order, repetition and grouping do not count.** -/
theorem Regrouped.covered_iff {one other : List α} (h : Regrouped matcher one other) (q : Request) :
    Covered matcher other q ↔ Covered matcher one q := by
  cases h with
  | permuted h => exact exists_congr fun a => and_congr_left fun _ => h.mem_iff.symm
  | @repeated _ a ha =>
    refine ⟨?_, fun ⟨b, hb, hcovers⟩ => ⟨b, List.mem_cons_of_mem a hb, hcovers⟩⟩
    rintro ⟨b, hb, hcovers⟩
    rcases List.mem_cons.1 hb with rfl | hb
    · exact ⟨b, ha, hcovers⟩
    · exact ⟨b, hb, hcovers⟩
  | reordered hpaths hmethods =>
    rw [covered_append_cons, covered_append_cons, Matcher.covers_congr hpaths hmethods]
  | @split before after parts a hpaths hmethods =>
    rw [covered_append_cons, ← covered_parts_iff hpaths hmethods]
    simp only [Covered, List.mem_append, or_and_right, exists_or]
    exact or_right_comm

/-- **More entries and more paths never cover less.** -/
theorem Widened.covered {one other : List α} (h : Widened matcher one other) {q : Request}
    (hc : Covered matcher one q) : Covered matcher other q := by
  cases h with
  | entry => exact covered_append_cons.2 (Or.inl hc)
  | paths hpaths hmethods =>
    rw [covered_append_cons] at hc ⊢
    exact hc.imp_right fun ha => ha.of_subset hpaths hmethods

end

end LoginGate.Access
