import LoginGate.Access.PathPattern
import LoginGate.Proofs.Lua.Matching
import LoginGate.Text.Bytes

/-!
# Compiled paths, read as patterns

`patternTokens path` are the tokens that stand behind the opening anchor of a compiled path; an
anchor at the end counts as a literal `$`, which is written in the same way.  Reading a compiled
path gives the items of these tokens back, and their last `$` as an anchor, so that no compiled path
is refused:

    ofBytes? (utf8 (compileChars path)) =
      some ⟨true, (itemsOf (patternTokens path)).1, (itemsOf (patternTokens path)).2⟩
                                                                       (ofBytes?_compileChars)
-/

namespace LoginGate.Access

open LoginGate.Text LoginGate.Lua LoginGate.Lua.Pattern

namespace PathToken

def items : PathToken → List PatternItem
  | anyText => [⟨.any, .greedily⟩]
  | oneSegment => [⟨.not (.either (.byte 47) .empty), .atLeastOnce⟩]
  | bareStar => [⟨.any, .greedily⟩]
  | literal c => (String.utf8EncodeChar c).map fun b => ⟨.byte b, .once⟩

/-- The items of some tokens, and whether the last of them is an anchor. -/
def itemsOf : List PathToken → List PatternItem × Bool
  | [] => ([], false)
  | [literal '$'] => ([], true)
  | t :: tokens => (t.items ++ (itemsOf tokens).1, (itemsOf tokens).2)

theorem itemsOf_append_dollar (tokens : List PathToken) :
    itemsOf (tokens ++ [literal '$']) = (tokens.flatMap items, true) := by
  induction tokens with
  | nil => rfl
  | cons t tokens ih =>
    rw [List.cons_append, itemsOf, ih, List.flatMap_cons]
    intro _ h
    cases tokens <;> cases h

theorem itemsOf_of_getLast?_ne {tokens : List PathToken}
    (h : tokens.getLast? ≠ some (literal '$')) :
    itemsOf tokens = (tokens.flatMap items, false) := by
  induction tokens with
  | nil => rfl
  | cons t tokens ih =>
    have hne : t = literal '$' → tokens = [] → False := by
      rintro rfl rfl
      exact h rfl
    rw [itemsOf, ih, List.flatMap_cons]
    · intro hl
      apply h
      rw [List.getLast?_cons, hl]
      rfl
    · exact hne

end PathToken

open PathToken

/-- The tokens behind the opening anchor of a compiled path. -/
def patternTokens (path : List Char) : List PathToken :=
  if path.head? = some '^' then (PathToken.ofChars path).tail
  else if bareStar ∈ PathToken.ofChars path then PathToken.ofChars path
  else PathToken.ofChars path ++ [literal '$']

theorem ofChars_cons_caret (path : List Char) :
    PathToken.ofChars ('^' :: path) = literal '^' :: PathToken.ofChars path := by
  rw [PathToken.ofChars] <;> simp

theorem compileChars_eq (path : List Char) :
    compileChars path = '^' :: (patternTokens path).flatMap PathToken.pattern := by
  unfold compileChars patternTokens
  dsimp only
  by_cases hc : path.head? = some '^'
  · obtain ⟨rest, rfl⟩ : ∃ rest, path = '^' :: rest := by
      cases path with
      | nil => cases hc
      | cons c rest => exact ⟨rest, by rw [Option.some.inj hc]⟩
    rw [if_pos hc, if_pos hc, ofChars_cons_caret]
    rfl
  · rw [if_neg hc, if_neg hc]
    by_cases hs : bareStar ∈ PathToken.ofChars path
    · rw [if_pos hs, if_pos hs]
    · rw [if_neg hs, if_neg hs, List.flatMap_append]
      rfl

/-! ## Reading one item -/

/-- Do bytes read as these items, whatever fuel is enough for them? -/
def ReadsAs (s : List UInt8) (result : List PatternItem × Bool) : Prop :=
  ∀ fuel, s.length < fuel → items? fuel s = some result

theorem ReadsAs.cons {s one rest : List UInt8} {set : ByteSet} {times : Times}
    {result : List PatternItem × Bool} (hs : s ≠ [36]) (hset : ByteSet.read? s = some (set, one))
    (htimes : Times.read one = (times, rest)) (hlt : rest.length < s.length)
    (h : ReadsAs rest result) : ReadsAs s (⟨set, times⟩ :: result.1, result.2) := by
  intro fuel hf
  cases fuel with
  | zero => omega
  | succ fuel =>
    have hne : s ≠ [] := by
      rintro rfl
      cases hset
    rw [items?, hset]
    · simp only [htimes, h fuel (by omega), Option.bind_eq_bind, Option.bind_some,
        Option.pure_def]
    · exact hne
    · exact hs

/-- Bytes that do not say how often the item before them is matched. -/
def Fresh (s : List UInt8) : Prop := Times.read s = (.once, s)

theorem fresh_nil : Fresh [] := rfl

theorem fresh_cons {b : UInt8} (h : b ≠ 63 ∧ b ≠ 42 ∧ b ≠ 45 ∧ b ≠ 43) (s : List UInt8) :
    Fresh (b :: s) := by
  obtain ⟨h1, h2, h3, h4⟩ := h
  unfold Fresh Times.read
  split <;> simp_all

/-- The bytes that do not stand for themselves in a pattern, the anchors aside. -/
def isSyntax (b : UInt8) : Bool :=
  b == 37 || b == 91 || b == 46 || b == 40 || b == 41 || b == 63 || b == 42 || b == 45 || b == 43

theorem read?_of_not_isSyntax {b : UInt8} (h : isSyntax b = false) (s : List UInt8) :
    ByteSet.read? (b :: s) = some (.byte b, s) := by
  simp only [isSyntax, Bool.or_eq_false_iff, beq_eq_false_iff_ne, ne_eq] at h
  obtain ⟨⟨⟨⟨⟨⟨⟨⟨h37, h91⟩, h46⟩, h40⟩, h41⟩, -⟩, -⟩, -⟩, -⟩ := h
  rw [ByteSet.read?, ByteSet.isCapture] <;> simp_all

theorem fresh_of_not_isSyntax {b : UInt8} (h : isSyntax b = false) (s : List UInt8) :
    Fresh (b :: s) := by
  simp only [isSyntax, Bool.or_eq_false_iff, beq_eq_false_iff_ne, ne_eq] at h
  exact fresh_cons ⟨h.1.1.1.2, h.1.1.2, h.1.2, h.2⟩ s

theorem ReadsAs.byte {b : UInt8} {s : List UInt8} {result : List PatternItem × Bool}
    (hb : isSyntax b = false) (hd : b :: s ≠ [36]) (hs : Fresh s) (h : ReadsAs s result) :
    ReadsAs (b :: s) (⟨.byte b, .once⟩ :: result.1, result.2) :=
  .cons hd (read?_of_not_isSyntax hb s) hs (Nat.lt_succ_self _) h

/-- Bytes of a character outside of ASCII, or what is left of them. -/
theorem ReadsAs.bytes {bs s : List UInt8} {result : List PatternItem × Bool}
    (hb : ∀ b ∈ bs, 128 ≤ b.toNat) (hs : Fresh s) (h : ReadsAs s result) :
    ReadsAs (bs ++ s) (bs.map (fun b => ⟨.byte b, .once⟩) ++ result.1, result.2) ∧
      Fresh (bs ++ s) := by
  induction bs with
  | nil => exact ⟨h, hs⟩
  | cons b bs ih =>
    obtain ⟨hr, hf⟩ := ih fun b hb' => hb b (List.mem_cons_of_mem _ hb')
    have h128 : 128 ≤ b.toNat := hb b List.mem_cons_self
    have hsyn : isSyntax b = false := by
      simp only [isSyntax, Bool.or_eq_false_iff, beq_eq_false_iff_ne, ne_eq]
      refine ⟨⟨⟨⟨⟨⟨⟨⟨?_, ?_⟩, ?_⟩, ?_⟩, ?_⟩, ?_⟩, ?_⟩, ?_⟩, ?_⟩ <;> rintro rfl <;>
        exact absurd h128 (by decide)
    refine ⟨.byte hsyn ?_ hf hr, fresh_of_not_isSyntax hsyn _⟩
    intro he
    rw [(List.cons.inj he).1] at h128
    exact absurd h128 (by decide)

/-! ## Reading tokens -/

theorem isMagic_cases {c : Char} (h : isMagic c = true) :
    c ∈ ['%', '-', '.', '+', '?', '(', ')', '[', ']'] := by
  simp only [isMagic, Bool.or_eq_true, decide_eq_true_eq, or_assoc] at h
  simpa only [List.mem_cons, List.not_mem_nil, or_false] using h

/-- Behind a percent sign a character with a meaning of its own stands for itself. -/
theorem read?_magic {c : Char} (h : isMagic c = true) (s : List UInt8) :
    ByteSet.read? (37 :: UInt8.ofNat c.toNat :: s) = some (.byte (UInt8.ofNat c.toNat), s) := by
  have hc := isMagic_cases h
  simp only [List.mem_cons, List.not_mem_nil, or_false] at hc
  rcases hc with rfl | rfl | rfl | rfl | rfl | rfl | rfl | rfl | rfl <;> rfl

theorem toNat_lt_of_isMagic {c : Char} (h : isMagic c = true) : c.toNat < 128 := by
  have hc := isMagic_cases h
  simp only [List.mem_cons, List.not_mem_nil, or_false] at hc
  rcases hc with rfl | rfl | rfl | rfl | rfl | rfl | rfl | rfl | rfl <;> decide

/-- A character of ASCII that is written as it is, is no syntax. -/
theorem isSyntax_of_not_isMagic {c : Char} (hc : c.toNat < 128) (h : isMagic c = false)
    (hs : c ≠ '*') : isSyntax (UInt8.ofNat c.toNat) = false := by
  have key : ∀ d : Char, d.toNat < 128 → UInt8.ofNat c.toNat = UInt8.ofNat d.toNat → c = d := by
    intro d hd he
    apply eq_of_mem_utf8EncodeChar hd
    rw [utf8EncodeChar_of_lt hc, he]
    exact List.mem_singleton.2 rfl
  simp only [isMagic, Bool.or_eq_false_iff, decide_eq_false_iff_not] at h
  obtain ⟨⟨⟨⟨⟨⟨⟨⟨h1, h2⟩, h3⟩, h4⟩, h5⟩, h6⟩, h7⟩, h8⟩, h9⟩ := h
  simp only [isSyntax, Bool.or_eq_false_iff, beq_eq_false_iff_ne, ne_eq]
  exact ⟨⟨⟨⟨⟨⟨⟨⟨fun e => h1 (key '%' (by decide) e), fun e => h8 (key '[' (by decide) e)⟩,
    fun e => h3 (key '.' (by decide) e)⟩, fun e => h6 (key '(' (by decide) e)⟩,
    fun e => h7 (key ')' (by decide) e)⟩, fun e => h5 (key '?' (by decide) e)⟩,
    fun e => hs (key '*' (by decide) e)⟩, fun e => h2 (key '-' (by decide) e)⟩,
    fun e => h4 (key '+' (by decide) e)⟩

/-- A star is never a literal. -/
theorem literal_star_not_mem_ofChars (path : List Char) :
    literal '*' ∉ PathToken.ofChars path := by
  fun_induction PathToken.ofChars path with
  | case1 rest ih => simpa using ih
  | case2 rest ih => simpa using ih
  | case3 rest ih => simpa using ih
  | case4 c rest _ _ hc ih => simpa using ⟨fun h => hc h.symm, ih⟩
  | case5 => simp

/-- A token that is written as nothing would be lost. -/
theorem pattern_ne_nil (t : PathToken) : t.pattern ≠ [] := by
  cases t with
  | literal c =>
    simp only [PathToken.pattern]
    split <;> exact List.cons_ne_nil _ _
  | anyText => exact List.cons_ne_nil _ _
  | oneSegment => exact List.cons_ne_nil _ _
  | bareStar => exact List.cons_ne_nil _ _

theorem utf8_eq_nil_iff (s : List Char) : utf8 s = [] ↔ s = [] := by
  cases s with
  | nil => simp
  | cons c s => simp [utf8EncodeChar_ne_nil c]

theorem eq_nil_of_utf8_pattern {tokens : List PathToken}
    (h : utf8 (tokens.flatMap PathToken.pattern) = []) : tokens = [] := by
  cases tokens with
  | nil => rfl
  | cons t tokens =>
    rw [utf8_eq_nil_iff, List.flatMap_cons, List.append_eq_nil_iff] at h
    exact absurd h.1 (pattern_ne_nil t)

theorem itemsOf_cons {t : PathToken} {tokens : List PathToken}
    (h : t = literal '$' → tokens ≠ []) :
    itemsOf (t :: tokens) = (t.items ++ (itemsOf tokens).1, (itemsOf tokens).2) := by
  rw [itemsOf]
  exact fun ht hn => h ht hn

/-- A literal in front of what reads back, unless it is an anchor. -/
theorem readsAs_literal {c : Char} {s : List UInt8} {result : List PatternItem × Bool}
    (hstar : c ≠ '*') (hd : c = '$' → s ≠ []) (hr : ReadsAs s result) (hf : Fresh s) :
    ReadsAs (utf8 (PathToken.literal c).pattern ++ s)
        ((PathToken.literal c).items ++ result.1, result.2) ∧
      Fresh (utf8 (PathToken.literal c).pattern ++ s) := by
  simp only [PathToken.pattern, PathToken.items]
  by_cases hm : isMagic c = true
  · have hc := toNat_lt_of_isMagic hm
    rw [if_pos hm, utf8_cons, utf8_cons, utf8_nil, utf8EncodeChar_of_lt hc]
    show ReadsAs (37 :: UInt8.ofNat c.toNat :: s) _ ∧ Fresh (37 :: UInt8.ofNat c.toNat :: s)
    refine ⟨.cons ?_ (read?_magic hm s) hf ?_ hr, rfl⟩
    · intro h
      cases (List.cons.inj h).2
    · simp only [List.length_cons]
      omega
  · rw [if_neg hm, utf8_cons, utf8_nil, List.append_nil]
    rcases Nat.lt_or_ge c.toNat 128 with hc | hc
    · rw [utf8EncodeChar_of_lt hc]
      have hsyn := isSyntax_of_not_isMagic hc (Bool.eq_false_iff.2 hm) hstar
      refine ⟨.byte hsyn ?_ hf hr, fresh_of_not_isSyntax hsyn _⟩
      intro h
      obtain ⟨hb, hs⟩ := List.cons.inj h
      refine hd (eq_of_mem_utf8EncodeChar (d := '$') (by decide) ?_) hs
      rw [utf8EncodeChar_of_lt hc, hb]
      exact List.mem_singleton.2 rfl
    · exact ReadsAs.bytes (fun b hb => le_of_mem_utf8EncodeChar hc hb) hf hr

/-- Tokens of which none is a literal star read back as their items. -/
theorem readsAs_flatMap_pattern {tokens : List PathToken} (h : literal '*' ∉ tokens) :
    ReadsAs (utf8 (tokens.flatMap PathToken.pattern)) (itemsOf tokens) ∧
      Fresh (utf8 (tokens.flatMap PathToken.pattern)) := by
  induction tokens with
  | nil =>
    refine ⟨fun fuel hf => ?_, fresh_nil⟩
    cases fuel with
    | zero => omega
    | succ fuel => rfl
  | cons t tokens ih =>
    obtain ⟨hr, hf⟩ := ih fun hm => h (List.mem_cons_of_mem _ hm)
    by_cases hd : t = literal '$' ∧ tokens = []
    · obtain ⟨rfl, rfl⟩ := hd
      refine ⟨fun fuel hfuel => ?_, rfl⟩
      cases fuel with
      | zero => omega
      | succ fuel => rfl
    · have hd' : t = literal '$' → tokens ≠ [] := fun ht hn => hd ⟨ht, hn⟩
      rw [List.flatMap_cons, utf8_append, itemsOf_cons hd']
      have hs : t = literal '$' → utf8 (tokens.flatMap PathToken.pattern) ≠ [] :=
        fun ht hn => hd' ht (eq_nil_of_utf8_pattern hn)
      generalize utf8 (tokens.flatMap PathToken.pattern) = s at hr hf hs
      have hne : ∀ (b : UInt8) (bs : List UInt8), b ≠ 36 → b :: (bs ++ s) ≠ [36] :=
        fun b bs hb he => hb (List.cons.inj he).1
      have hlt : ∀ (b : UInt8) (bs : List UInt8), s.length < (b :: (bs ++ s)).length := by
        intro b bs
        rw [List.length_cons, List.length_append]
        omega
      cases t with
      | anyText => exact ⟨.cons (hne 46 [42] (by decide)) rfl rfl (hlt 46 [42]) hr, rfl⟩
      | bareStar => exact ⟨.cons (hne 46 [42] (by decide)) rfl rfl (hlt 46 [42]) hr, rfl⟩
      | oneSegment =>
        exact ⟨.cons (hne 91 [94, 47, 93, 43] (by decide)) rfl rfl (hlt 91 [94, 47, 93, 43]) hr,
          rfl⟩
      | literal c =>
        refine readsAs_literal ?_ (fun hc => hs (by rw [hc])) hr hf
        rintro rfl
        exact h List.mem_cons_self

theorem literal_star_not_mem_patternTokens (path : List Char) :
    literal '*' ∉ patternTokens path := by
  have h := literal_star_not_mem_ofChars path
  unfold patternTokens
  split
  · exact fun hm => h (List.mem_of_mem_tail hm)
  · split
    · exact h
    · simpa using h

/-- **No compiled path is refused.**  Its tokens are read back, and its last `$` as an anchor. -/
theorem ofBytes?_compileChars (path : List Char) :
    Pattern.ofBytes? (utf8 (compileChars path)) =
      some ⟨true, (itemsOf (patternTokens path)).1, (itemsOf (patternTokens path)).2⟩ := by
  have hr := (readsAs_flatMap_pattern (literal_star_not_mem_patternTokens path)).1
  rw [compileChars_eq]
  show Pattern.ofBytes? (94 :: utf8 ((patternTokens path).flatMap PathToken.pattern)) = _
  rw [Pattern.ofBytes?, hr _ (Nat.lt_succ_self _)]
  rfl

end LoginGate.Access
