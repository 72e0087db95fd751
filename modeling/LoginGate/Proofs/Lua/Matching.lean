import LoginGate.Lua.Pattern

/-!
# The search misses no match

`PatternItem.Covers` and `CoversAll` say what items match, without any order of trying.  The search
tries long runs before short ones and goes back when it gets stuck, and succeeds exactly when there
is a match at all:

    (rest? atEnd items s).isSome ↔
      ∃ x y, s = x ++ y ∧ CoversAll items x ∧ (atEnd = true → y = [])      (isSome_rest?_iff)
-/

namespace LoginGate.Lua

/-- Does an item match exactly these bytes? -/
def PatternItem.Covers (i : PatternItem) (s : List UInt8) : Prop :=
  match i.times with
  | .once => ∃ b, s = [b] ∧ i.set.contains b = true
  | .optionally => s = [] ∨ ∃ b, s = [b] ∧ i.set.contains b = true
  | .greedily => s.all i.set.contains = true
  | .lazily => s.all i.set.contains = true
  | .atLeastOnce => s ≠ [] ∧ s.all i.set.contains = true

namespace Pattern

/-- Do items match exactly these bytes, one after the other? -/
def CoversAll : List PatternItem → List UInt8 → Prop
  | [], s => s = []
  | i :: items, s => ∃ x y, s = x ++ y ∧ i.Covers x ∧ CoversAll items y

theorem coversAll_append (one other : List PatternItem) (s : List UInt8) :
    CoversAll (one ++ other) s ↔ ∃ x y, s = x ++ y ∧ CoversAll one x ∧ CoversAll other y := by
  induction one generalizing s with
  | nil =>
    constructor
    · intro h
      exact ⟨[], s, rfl, rfl, h⟩
    · rintro ⟨x, y, rfl, rfl, h⟩
      exact h
  | cons i one ih =>
    simp only [List.cons_append, CoversAll]
    constructor
    · rintro ⟨x, y, rfl, hx, hy⟩
      obtain ⟨u, v, rfl, hu, hv⟩ := (ih y).1 hy
      exact ⟨x ++ u, v, (List.append_assoc x u v).symm, ⟨x, u, rfl, hx, hu⟩, hv⟩
    · rintro ⟨x, y, rfl, ⟨u, v, rfl, hu, hv⟩, hy⟩
      exact ⟨u, v ++ y, List.append_assoc u v y, hu, (ih _).2 ⟨v, y, rfl, hv, hy⟩⟩

/-! ## Repetitions -/

/-- Of two attempts one is enough. -/
theorem isSome_orElse_iff (one other : Option (List UInt8)) :
    (one <|> other).isSome = true ↔ one.isSome = true ∨ other.isSome = true := by
  rw [Option.orElse_eq_orElse, Option.orElse_eq_or, Option.isSome_or, Bool.or_eq_true]

section

variable (p : UInt8 → Bool) (next : List UInt8 → Option (List UInt8))

theorem isSome_afterOne_iff (s : List UInt8) :
    (afterOne p next s).isSome = true ↔
      ∃ b y, s = b :: y ∧ p b = true ∧ (next y).isSome = true := by
  cases s with
  | nil => simp [afterOne]
  | cons b s =>
    simp only [afterOne]
    constructor
    · intro h
      by_cases hb : p b = true
      · exact ⟨b, s, rfl, hb, by rwa [if_pos hb] at h⟩
      · rw [if_neg hb] at h
        cases h
    · rintro ⟨c, y, h, hc, hy⟩
      obtain ⟨rfl, rfl⟩ := List.cons.inj h
      rwa [if_pos hc]

/-- The ways to cut a run of bytes off `b :: s`: none of it, or `b` and then some of `s`. -/
theorem exists_run_cons_iff (P : List UInt8 → Prop) (b : UInt8) (s : List UInt8) :
    (∃ x y, b :: s = x ++ y ∧ x.all p = true ∧ P y) ↔
      P (b :: s) ∨ (p b = true ∧ ∃ x y, s = x ++ y ∧ x.all p = true ∧ P y) := by
  constructor
  · rintro ⟨x, y, h, hx, hy⟩
    cases x with
    | nil => exact Or.inl (by rw [h]; exact hy)
    | cons c x =>
      obtain ⟨rfl, rfl⟩ := List.cons.inj h
      rw [List.all_cons, Bool.and_eq_true] at hx
      exact Or.inr ⟨hx.1, x, y, rfl, hx.2, hy⟩
  · rintro (h | ⟨hb, x, y, rfl, hx, hy⟩)
    · exact ⟨[], b :: s, rfl, rfl, h⟩
    · exact ⟨b :: x, y, rfl, by rw [List.all_cons, hb, hx]; rfl, hy⟩

theorem exists_run_nil_iff (P : List UInt8 → Prop) :
    (∃ x y, [] = x ++ y ∧ x.all p = true ∧ P y) ↔ P [] := by
  constructor
  · rintro ⟨x, y, h, -, hy⟩
    obtain ⟨rfl, rfl⟩ := List.append_eq_nil_iff.1 h.symm
    exact hy
  · intro h
    exact ⟨[], [], rfl, rfl, h⟩

/-- Going back from the longest run finds every run. -/
theorem isSome_afterLongest_iff (s : List UInt8) :
    (afterLongest p next s).isSome = true ↔
      ∃ x y, s = x ++ y ∧ x.all p = true ∧ (next y).isSome = true := by
  induction s with
  | nil => exact (exists_run_nil_iff p fun y => (next y).isSome = true).symm
  | cons b s ih =>
    rw [exists_run_cons_iff p (fun y => (next y).isSome = true), ← ih, afterLongest]
    by_cases hb : p b = true
    · rw [if_pos hb, isSome_orElse_iff, or_comm]
      simp only [hb, true_and]
    · rw [if_neg hb]
      simp only [hb, Bool.false_eq_true, false_and, or_false]

theorem isSome_afterShortest_iff (s : List UInt8) :
    (afterShortest p next s).isSome = true ↔
      ∃ x y, s = x ++ y ∧ x.all p = true ∧ (next y).isSome = true := by
  induction s with
  | nil => exact (exists_run_nil_iff p fun y => (next y).isSome = true).symm
  | cons b s ih =>
    rw [exists_run_cons_iff p (fun y => (next y).isSome = true), ← ih, afterShortest,
      isSome_orElse_iff]
    by_cases hb : p b = true
    · rw [if_pos hb]
      simp only [hb, true_and]
    · rw [if_neg hb]
      simp only [hb, false_and, Option.isSome_none, Bool.false_eq_true]

end

/-! ## Whole patterns -/

/-- What items match at the start of `s`, told by the item that comes first. -/
theorem exists_coversAll_cons_iff (i : PatternItem) (items : List PatternItem)
    (P : List UInt8 → Prop) (s : List UInt8) :
    (∃ x y, s = x ++ y ∧ CoversAll (i :: items) x ∧ P y) ↔
      ∃ u t, s = u ++ t ∧ i.Covers u ∧ ∃ x y, t = x ++ y ∧ CoversAll items x ∧ P y := by
  constructor
  · rintro ⟨_, y, rfl, ⟨u, x, rfl, hu, hx⟩, hy⟩
    exact ⟨u, x ++ y, List.append_assoc u x y, hu, x, y, rfl, hx, hy⟩
  · rintro ⟨u, _, rfl, hu, x, y, rfl, hx, hy⟩
    exact ⟨u ++ x, y, (List.append_assoc u x y).symm, ⟨u, x, rfl, hu, hx⟩, hy⟩

theorem exists_one_iff (set : ByteSet) (P : List UInt8 → Prop) (s : List UInt8) :
    (∃ b y, s = b :: y ∧ set.contains b = true ∧ P y) ↔
      ∃ u t, s = u ++ t ∧ PatternItem.Covers ⟨set, .once⟩ u ∧ P t := by
  constructor
  · rintro ⟨b, y, rfl, hb, hy⟩
    exact ⟨[b], y, rfl, ⟨b, rfl, hb⟩, hy⟩
  · rintro ⟨_, t, rfl, ⟨b, rfl, hb⟩, ht⟩
    exact ⟨b, t, rfl, hb, ht⟩

theorem exists_optional_iff (set : ByteSet) (P : List UInt8 → Prop) (s : List UInt8) :
    ((∃ b y, s = b :: y ∧ set.contains b = true ∧ P y) ∨ P s) ↔
      ∃ u t, s = u ++ t ∧ PatternItem.Covers ⟨set, .optionally⟩ u ∧ P t := by
  rw [exists_one_iff]
  constructor
  · rintro (⟨u, t, rfl, hu, ht⟩ | h)
    · exact ⟨u, t, rfl, Or.inr hu, ht⟩
    · exact ⟨[], s, rfl, Or.inl rfl, h⟩
  · rintro ⟨u, t, rfl, rfl | hu, ht⟩
    · exact Or.inr ht
    · exact Or.inl ⟨u, t, rfl, hu, ht⟩

theorem exists_many_iff (set : ByteSet) (P : List UInt8 → Prop) (s : List UInt8) :
    (∃ b y, s = b :: y ∧ set.contains b = true ∧
        ∃ x t, y = x ++ t ∧ x.all set.contains = true ∧ P t) ↔
      ∃ u t, s = u ++ t ∧ PatternItem.Covers ⟨set, .atLeastOnce⟩ u ∧ P t := by
  constructor
  · rintro ⟨b, _, rfl, hb, x, t, rfl, hx, ht⟩
    refine ⟨b :: x, t, rfl, ⟨List.cons_ne_nil b x, ?_⟩, ht⟩
    rw [List.all_cons, hb, hx]
    rfl
  · rintro ⟨u, t, rfl, ⟨hne, hu⟩, ht⟩
    obtain ⟨b, x, rfl⟩ := List.exists_cons_of_ne_nil hne
    rw [List.all_cons, Bool.and_eq_true] at hu
    exact ⟨b, x ++ t, rfl, hu.1, x, t, rfl, hu.2, ht⟩

/-- **The search is complete.**  It succeeds exactly when there is a match. -/
theorem isSome_rest?_iff (atEnd : Bool) (items : List PatternItem) (s : List UInt8) :
    (rest? atEnd items s).isSome = true ↔
      ∃ x y, s = x ++ y ∧ CoversAll items x ∧ (atEnd = true → y = []) := by
  induction items generalizing s with
  | nil =>
    rw [rest?]
    constructor
    · intro h
      refine ⟨[], s, rfl, rfl, fun he => ?_⟩
      subst he
      cases s with
      | nil => rfl
      | cons b s => simp at h
    · rintro ⟨x, y, rfl, rfl, h⟩
      cases atEnd with
      | false => rfl
      | true => rw [h rfl]; rfl
  | cons i items ih =>
    rw [exists_coversAll_cons_iff]
    simp only [← ih]
    obtain ⟨set, times⟩ := i
    cases times with
    | once =>
      rw [rest?, isSome_afterOne_iff]
      exact exists_one_iff set _ s
    | optionally =>
      rw [rest?, isSome_orElse_iff, isSome_afterOne_iff]
      exact exists_optional_iff set _ s
    | greedily => rw [rest?]; exact isSome_afterLongest_iff _ _ s
    | lazily => rw [rest?]; exact isSome_afterShortest_iff _ _ s
    | atLeastOnce =>
      simp only [rest?, isSome_afterOne_iff, isSome_afterLongest_iff]
      exact exists_many_iff set _ s

theorem isSome_match?_anchored_iff (items : List PatternItem) (atEnd : Bool) (s : List UInt8) :
    (match? ⟨true, items, atEnd⟩ s).isSome = true ↔
      ∃ x y, s = x ++ y ∧ CoversAll items x ∧ (atEnd = true → y = []) := by
  rw [← isSome_rest?_iff, match?, if_pos rfl, matchHere?, Option.isSome_map]

end Pattern

end LoginGate.Lua
