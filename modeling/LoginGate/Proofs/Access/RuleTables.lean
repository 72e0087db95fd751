import Mathlib.Data.List.Forall2
import Mathlib.Data.List.Induction
import Mathlib.Data.List.Nodup
import LoginGate.Proofs.Lua.Values

/-!
# Rule tables, written and read

The table that is written for some matchers is read as a list of one record for each path of each
matcher, in order.  A record holds the pattern of the path, and the set of the methods of its
matcher, each of them once and where it is first named:

    Value.ofText? (ruleTableText (ruleTable matchers)) = some (.table records []) ∧
      Forall₂ IsRecordOf (declarations matchers) records               (ruleTableText_read_back)

No two rule tables are written alike (`ruleTableText_injective`).
-/

namespace LoginGate.Access

open LoginGate.Text LoginGate.Lua

/-! ## First places -/

section

variable {α : Type} [DecidableEq α]

/-- Are these the members of a list, each of them once, in the order of their first places? -/
structure FirstPlaces (all distinct : List α) : Prop where
  mem_iff : ∀ a, a ∈ distinct ↔ a ∈ all
  nodup : distinct.Nodup
  ordered : distinct.Pairwise fun a b => all.idxOf a < all.idxOf b

theorem pairwise_idxOf_eraseDups (l : List α) :
    l.eraseDups.Pairwise fun a b => l.idxOf a < l.idxOf b := by
  -- from the end: a member that is new comes after all that were there
  induction l using List.reverseRecOn with
  | nil => exact List.Pairwise.nil
  | append_singleton l x ih =>
    have hold : ∀ a ∈ l.eraseDups, (l ++ [x]).idxOf a = l.idxOf a := by
      intro a ha
      rw [List.idxOf_append, if_pos (List.mem_eraseDups.1 ha)]
    have ih' : l.eraseDups.Pairwise fun a b => (l ++ [x]).idxOf a < (l ++ [x]).idxOf b := by
      refine ih.imp_of_mem fun ha hb h => ?_
      rwa [hold _ ha, hold _ hb]
    rw [List.eraseDups_append]
    by_cases hx : x ∈ l
    · have hnone : [x].removeAll l = [] := by simp [List.removeAll, hx]
      rwa [hnone, List.eraseDups_nil, List.append_nil]
    · have hone : ([x].removeAll l).eraseDups = [x] := by
        simp [List.removeAll, hx, List.eraseDups_cons]
      rw [hone, List.pairwise_append]
      refine ⟨ih', List.pairwise_singleton _ _, fun a ha b hb => ?_⟩
      obtain rfl := List.mem_singleton.1 hb
      rw [hold a ha, List.idxOf_append, if_neg hx]
      have := List.idxOf_lt_length_of_mem (List.mem_eraseDups.1 ha)
      omega

theorem firstPlaces_eraseDups (l : List α) : FirstPlaces l l.eraseDups := by
  have hordered := pairwise_idxOf_eraseDups l
  refine ⟨fun a => List.mem_eraseDups, hordered.imp fun h he => ?_, hordered⟩
  rw [he] at h
  exact Nat.lt_irrefl _ h

theorem idxOf_map {β : Type} [DecidableEq β] {f : α → β} (hf : ∀ a b, f a = f b → a = b)
    (l : List α) (a : α) : (l.map f).idxOf (f a) = l.idxOf a := by
  induction l with
  | nil => rfl
  | cons b l ih =>
    by_cases hb : b = a
    · rw [hb, List.map_cons, List.idxOf_cons_self, List.idxOf_cons_self]
    · have hfb : f b ≠ f a := fun h => hb (hf b a h)
      rw [List.map_cons, List.idxOf_cons_ne _ hfb, List.idxOf_cons_ne _ hb, ih]

theorem FirstPlaces.map {β : Type} [DecidableEq β] {all distinct : List α} {f : α → β}
    (hf : ∀ a b, f a = f b → a = b) (h : FirstPlaces all distinct) :
    FirstPlaces (all.map f) (distinct.map f) := by
  refine ⟨fun b => ?_, h.nodup.map (fun a b => hf a b), ?_⟩
  · simp only [List.mem_map, h.mem_iff]
  · rw [List.pairwise_map]
    refine h.ordered.imp fun hab => ?_
    rwa [idxOf_map hf, idxOf_map hf]

end

/-! ## Records -/

def record (pattern : List UInt8) (methods : List (List UInt8)) : Value :=
  .table [] [(textBytes "regex", .text pattern),
    (textBytes "methods", .table [] (methods.map fun key => (key, .truth true)))]

def Rule.value (r : Rule) : Value := record (textBytes r.pattern) (r.methods.map textBytes)

theorem makes_stringSet (keys : List String) :
    Makes (stringSetTokens keys)
      (.table [] ((keys.map textBytes).map fun key => (key, .truth true))) := by
  rw [List.map_map]
  exact makes_record fun key _ => makesEntry_keyed (textBytes key) makes_true

theorem makes_rule (r : Rule) : Makes r.tokens r.value := by
  have hregex : nameKey? "regex".toList = some (textBytes "regex") := by decide
  have hmethods : nameKey? "methods".toList = some (textBytes "methods") := by decide
  refine @makes_record (List Token × List UInt8 × Value) [(_, _, _), (_, _, _)] Prod.fst
    (fun field => field.2.2) (fun field => field.2.1) ?_
  exact List.forall_mem_cons.2 ⟨makesEntry_named hregex (makes_text _),
    List.forall_mem_singleton.2 (makesEntry_named hmethods (makes_stringSet r.methods))⟩

theorem makes_ruleTable (rules : List Rule) :
    Makes (ruleTableTokens rules) (.table (rules.map Rule.value) []) :=
  makes_list fun r _ => makesEntry_table (makes_rule r)

theorem ofText?_ruleTableText (rules : List Rule) :
    Value.ofText? (ruleTableText rules) = some (.table (rules.map Rule.value) []) :=
  ofText?_of_reads (reads_ruleTableText rules _) (makes_ruleTable rules)

theorem record_injective {pattern pattern' : List UInt8} {methods methods' : List (List UInt8)}
    (h : record pattern methods = record pattern' methods') :
    pattern = pattern' ∧ methods = methods' := by
  simp only [record, Value.table.injEq, List.cons.injEq, Prod.mk.injEq, Value.text.injEq, true_and,
    and_true] at h
  exact ⟨h.1, (List.map_injective_iff.2 fun a b hab => (Prod.mk.inj hab).1) h.2⟩

theorem Rule.value_injective {r s : Rule} (h : r.value = s.value) : r = s := by
  obtain ⟨hp, hm⟩ := record_injective h
  have hmethods := (List.map_injective_iff.2 fun a b => textBytes_injective) hm
  cases r
  cases s
  rw [Rule.mk.injEq]
  exact ⟨textBytes_injective hp, hmethods⟩

/-- **No two rule tables are written alike.** -/
theorem ruleTableText_injective {one other : List Rule}
    (h : ruleTableText one = ruleTableText other) : one = other := by
  have hv := ofText?_ruleTableText one
  rw [h, ofText?_ruleTableText] at hv
  have hm := (Value.table.inj (Option.some.inj hv)).1
  exact (List.map_injective_iff.2 fun r s => Rule.value_injective) hm.symm

/-! ## What was declared -/

/-- The paths of matchers, each with the methods of its matcher. -/
def declarations (matchers : List Matcher) : List (String × List String) :=
  matchers.flatMap fun m => m.paths.map fun path => (path, m.methods)

/-- Is this the record of a path that is declared with some methods? -/
def IsRecordOf (declared : String × List String) (v : Value) : Prop :=
  ∃ methods, FirstPlaces (declared.2.map textBytes) methods ∧
    v = record (textBytes (compile declared.1)) methods

theorem ruleTable_eq_map (matchers : List Matcher) : ruleTable matchers =
    (declarations matchers).map fun d => ⟨compile d.1, d.2.eraseDups⟩ := by
  simp only [ruleTable, declarations, List.map_flatMap, List.map_map]
  rfl

/-- **Rule tables, written and read.** -/
theorem ruleTableText_read_back (matchers : List Matcher) :
    (∃ records, Value.ofText? (ruleTableText (ruleTable matchers)) = some (.table records []) ∧
      records.length = (matchers.flatMap Matcher.paths).length ∧
      List.Forall₂ IsRecordOf (declarations matchers) records) ∧
    ∀ rules, ruleTableText rules = ruleTableText (ruleTable matchers) ↔
      rules = ruleTable matchers := by
  refine ⟨⟨_, ofText?_ruleTableText _, ?_, ?_⟩,
    fun rules => ⟨ruleTableText_injective, congrArg ruleTableText⟩⟩
  · have hpaths : (declarations matchers).map Prod.fst = matchers.flatMap Matcher.paths := by
      simp [declarations, List.map_flatMap, Function.comp_def]
    rw [ruleTable_eq_map, List.length_map, List.length_map, ← hpaths, List.length_map]
  · rw [ruleTable_eq_map, List.map_map, List.forall₂_map_right_iff, List.forall₂_same]
    intro d _
    exact ⟨_, (firstPlaces_eraseDups d.2).map fun a b => textBytes_injective, rfl⟩

end LoginGate.Access
