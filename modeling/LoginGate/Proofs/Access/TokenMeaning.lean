import LoginGate.Access.PathGrammar
import LoginGate.Proofs.Access.PatternReading

/-!
# What compiled paths match

`PathToken.Covers` says what a token of a path stands for, and `CoversAll` what some tokens stand
for one after the other.  A compiled path that is bound to the end of the subject matches what its
tokens cover, and any other one matches what starts with something that they cover:

    patternTokens path = tokens ++ [literal '$'] →
      (finds (utf8 (compileChars path)) s ↔ CoversAll tokens s)              (finds_bound_iff)
    (patternTokens path).getLast? ≠ some (literal '$') →
      (finds (utf8 (compileChars path)) s ↔
        ∃ x y, s = x ++ y ∧ CoversAll (patternTokens path) x)                 (finds_open_iff)
-/

namespace LoginGate.Access

open LoginGate.Text LoginGate.Lua

namespace PathToken

def text : PathToken → List Char
  | anyText => anyOperator
  | oneSegment => oneOperator
  | bareStar => ['*']
  | literal c => [c]

/-- Does a token stand for exactly these bytes? -/
def Covers : PathToken → List UInt8 → Prop
  | anyText, _ => True
  | oneSegment, s => s ≠ [] ∧ 47 ∉ s
  | bareStar, _ => True
  | literal c, s => s = String.utf8EncodeChar c

/-- Do tokens stand for exactly these bytes, one after the other? -/
def CoversAll : List PathToken → List UInt8 → Prop
  | [], s => s = []
  | t :: tokens, s => ∃ x y, s = x ++ y ∧ t.Covers x ∧ CoversAll tokens y

theorem coversAll_append (one other : List PathToken) (s : List UInt8) :
    CoversAll (one ++ other) s ↔ ∃ x y, s = x ++ y ∧ CoversAll one x ∧ CoversAll other y := by
  induction one generalizing s with
  | nil =>
    constructor
    · intro h
      exact ⟨[], s, rfl, rfl, h⟩
    · rintro ⟨x, y, rfl, rfl, h⟩
      exact h
  | cons t one ih =>
    simp only [List.cons_append, CoversAll]
    constructor
    · rintro ⟨x, y, rfl, hx, hy⟩
      obtain ⟨u, v, rfl, hu, hv⟩ := (ih y).1 hy
      exact ⟨x ++ u, v, (List.append_assoc x u v).symm, ⟨x, u, rfl, hx, hu⟩, hv⟩
    · rintro ⟨x, y, rfl, ⟨u, v, rfl, hu, hv⟩, hy⟩
      exact ⟨u, v ++ y, List.append_assoc u v y, hu, (ih _).2 ⟨v, y, rfl, hv, hy⟩⟩

theorem coversAll_singleton (t : PathToken) (s : List UInt8) : CoversAll [t] s ↔ t.Covers s := by
  constructor
  · rintro ⟨x, y, rfl, hx, rfl⟩
    rwa [List.append_nil]
  · intro h
    exact ⟨s, [], (List.append_nil s).symm, h, rfl⟩

theorem coversAll_literals (l : List Char) (s : List UInt8) :
    CoversAll (l.map literal) s ↔ s = utf8 l := by
  induction l generalizing s with
  | nil => exact Iff.rfl
  | cons c l ih =>
    simp only [List.map_cons, CoversAll, Covers, ih]
    constructor
    · rintro ⟨x, y, rfl, rfl, rfl⟩
      rfl
    · rintro rfl
      exact ⟨_, _, rfl, rfl, rfl⟩

/-! ## Tokens as items of a pattern -/

theorem coversAll_once (bs s : List UInt8) :
    Pattern.CoversAll (bs.map fun b => ⟨.byte b, .once⟩) s ↔ s = bs := by
  induction bs generalizing s with
  | nil => exact Iff.rfl
  | cons b bs ih =>
    simp only [List.map_cons, Pattern.CoversAll, ih]
    constructor
    · rintro ⟨x, y, rfl, ⟨c, rfl, hc⟩, rfl⟩
      rw [List.singleton_append, ← eq_of_beq hc]
    · rintro rfl
      exact ⟨[b], bs, rfl, ⟨b, rfl, beq_self_eq_true b⟩, rfl⟩

theorem coversAll_item (i : PatternItem) (s : List UInt8) :
    Pattern.CoversAll [i] s ↔ i.Covers s := by
  constructor
  · rintro ⟨x, y, rfl, hx, rfl⟩
    rwa [List.append_nil]
  · intro h
    exact ⟨s, [], (List.append_nil s).symm, h, rfl⟩

theorem coversAll_items_iff (t : PathToken) (s : List UInt8) :
    Pattern.CoversAll t.items s ↔ t.Covers s := by
  cases t with
  | anyText =>
    rw [items, coversAll_item]
    exact iff_of_true (List.all_eq_true.2 fun _ _ => rfl) trivial
  | bareStar =>
    rw [items, coversAll_item]
    exact iff_of_true (List.all_eq_true.2 fun _ _ => rfl) trivial
  | oneSegment =>
    rw [items, coversAll_item]
    refine and_congr_right fun _ => ?_
    rw [List.all_eq_true]
    constructor
    · intro h hm
      exact absurd (h 47 hm) (by decide)
    · intro h b hb
      have hne : b ≠ 47 := by
        rintro rfl
        exact h hb
      simp [ByteSet.contains, hne]
  | literal c => exact coversAll_once _ s

theorem coversAll_flatMap_items_iff (tokens : List PathToken) (s : List UInt8) :
    Pattern.CoversAll (tokens.flatMap items) s ↔ CoversAll tokens s := by
  induction tokens generalizing s with
  | nil => exact Iff.rfl
  | cons t tokens ih =>
    rw [List.flatMap_cons, Pattern.coversAll_append]
    simp only [coversAll_items_iff, ih, CoversAll]

end PathToken

open PathToken

/-! ## Compiled paths -/

variable {path : List Char} {tokens : List PathToken}

theorem finds_bound_iff (h : patternTokens path = tokens ++ [literal '$']) (s : List UInt8) :
    finds (utf8 (compileChars path)) s = true ↔ CoversAll tokens s := by
  unfold finds
  rw [ofBytes?_compileChars, h, itemsOf_append_dollar]
  dsimp only
  rw [Pattern.isSome_match?_anchored_iff]
  simp only [coversAll_flatMap_items_iff]
  constructor
  · rintro ⟨x, y, rfl, hx, hy⟩
    rwa [hy trivial, List.append_nil]
  · intro hs
    exact ⟨s, [], (List.append_nil s).symm, hs, fun _ => rfl⟩

theorem finds_open_iff (h : (patternTokens path).getLast? ≠ some (literal '$')) (s : List UInt8) :
    finds (utf8 (compileChars path)) s = true ↔
      ∃ x y, s = x ++ y ∧ CoversAll (patternTokens path) x := by
  unfold finds
  rw [ofBytes?_compileChars, itemsOf_of_getLast?_ne h]
  dsimp only
  rw [Pattern.isSome_match?_anchored_iff]
  simp only [coversAll_flatMap_items_iff, Bool.false_eq_true, false_imp_iff, and_true]

/-- A path without a bare star matches what its tokens cover, from the first byte to the last. -/
theorem finds_iff_coversAll (hc : path.head? ≠ some '^')
    (hs : bareStar ∉ PathToken.ofChars path) (s : List UInt8) :
    finds (utf8 (compileChars path)) s = true ↔ CoversAll (PathToken.ofChars path) s := by
  apply finds_bound_iff
  rw [patternTokens, if_neg hc, if_neg hs]

/-- A path with a bare star matches whatever starts with something that its tokens cover, unless
it ends in a dollar sign. -/
theorem finds_bareStar_iff (hc : path.head? ≠ some '^') (hs : bareStar ∈ PathToken.ofChars path)
    (hd : (PathToken.ofChars path).getLast? ≠ some (literal '$')) (s : List UInt8) :
    finds (utf8 (compileChars path)) s = true ↔
      ∃ x y, s = x ++ y ∧ CoversAll (PathToken.ofChars path) x := by
  have he : patternTokens path = PathToken.ofChars path := by
    rw [patternTokens, if_neg hc, if_pos hs]
  rw [finds_open_iff (by rwa [he]), he]

theorem textBytes_compile (path : String) :
    textBytes (compile path) = utf8 (compileChars path.toList) := by
  rw [textBytes, compile, String.toList_ofList]

end LoginGate.Access
