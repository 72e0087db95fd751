import LoginGate.Proofs.Text.RangeTables
import LoginGate.Text.Composition

/-!
# Composites and their parts

What is joined is taken apart into the same two characters (`split?_of_join?`).  The second part of
a composite is no composite, and the first one is made of composites at most two deep, so that four
steps take every character apart (`splits`, `expand_of_split?`, `split?_of_mem_expand`).

The table of the composites is checked as a whole (`compositesFit`).
-/

namespace LoginGate.Text

open RangeMap (Entry)

/-! ## The table -/

/-- Is this the code point of a Hangul syllable or of a part of one? -/
def isHangul (n : Nat) : Bool := (0x1100 ≤ n && n < 0x1200) || (0xAC00 ≤ n && n < 0xD7A4)

/-- The ranges of the entries with a property. -/
def rangesOf (p : Entry → Bool) (row : List Entry) : List (Nat × Nat) :=
  row.flatMap fun e => if p e then [e.range] else []

/-- What is checked of a composite and its two parts; `single` are the composites whose first part
is no composite, and `double` those whose first part is a single one. -/
def compositeFits (all single double : Nat) (e : Entry) : Bool :=
  match e.values with
  | [a, b] =>
    e.low == e.high && [e.low, a, b].all (fun n => isCodePoint n && !isHangul n) &&
    (0x80 ≤ e.low && 0x3A < a && 0x80 ≤ b) && !all.testBit b &&
    (single.testBit e.low || double.testBit e.low || double.testBit a)
  | _ => false

/-- The code points of the composites with a first part of some kind. -/
def bitsWithFirst (p : Nat → Bool) (rows : List (List Entry)) : Nat :=
  rowsBits (rows.map (rangesOf fun e => (e.values.head?.any p)))

def compositesFit (rows : List (List Entry)) : Bool :=
  let all := bitsWithFirst (fun _ => true) rows
  let single := bitsWithFirst (fun a => !all.testBit a) rows
  let double := bitsWithFirst (fun a => single.testBit a) rows
  isAscending 0 (rows.flatten.map Entry.range) &&
    rows.flatten.all (compositeFits all single double)

theorem exists_rows_of_spelled {lines : List String} {texts : List (List Char)}
    (h : SpelledAs lines texts) {p : List (List Entry) → Bool}
    (hp : p (rowsOf RangeMap.item? texts) = true) :
    ∃ rows, (RangeMap.ofLines lines).entries.toList = rows.flatten ∧ p rows = true :=
  ⟨_, RangeMap.toList_entries h, hp⟩

theorem exists_compositesFit :
    ∃ rows, composites.entries.toList = rows.flatten ∧ compositesFit rows = true := by
  apply exists_rows_of_spelled
  · repeat apply SpelledAs.cons
    exact .nil
  · decide +kernel

theorem testBit_bitsWithFirst {p : Nat → Bool} {rows : List (List Entry)} {n : Nat} :
    (bitsWithFirst p rows).testBit n = true ↔
      ∃ e ∈ rows.flatten, e.values.head?.any p = true ∧ e.low ≤ n ∧ n ≤ e.high := by
  rw [bitsWithFirst, testBit_rowsBits]
  refine (inRanges_flatMap _ rows n).trans (exists_congr fun e => and_congr_right fun _ => ?_)
  by_cases hp : e.values.head?.any p = true
  · rw [if_pos hp]
    simp [InRanges, Entry.range, hp]
  · rw [if_neg hp]
    simp [InRanges, hp]

/-- Is the first character the composite of the other two? -/
def Composite (d a b : Char) : Prop :=
  ⟨d.toNat, d.toNat, [a.toNat, b.toNat]⟩ ∈ composites.entries

def IsComposite (d : Char) : Prop := ∃ a b, Composite d a b

/-- Is the character a composite of no others? -/
def IsSingle (d : Char) : Prop := ∃ a b, Composite d a b ∧ ¬ IsComposite a

/-- Is the character a composite of such a one? -/
def IsDouble (d : Char) : Prop := ∃ a b, Composite d a b ∧ IsSingle a

theorem ascending_composites : Ascending (composites.entries.toList.map Entry.range) := by
  obtain ⟨rows, hrows, hfit⟩ := exists_compositesFit
  rw [hrows]
  exact ascending_of_isAscending (Bool.and_eq_true_iff.1 hfit).1

theorem exists_composite {e : Entry} (he : e ∈ composites.entries) :
    ∃ d a b : Char, e = ⟨d.toNat, d.toNat, [a.toNat, b.toNat]⟩ := by
  obtain ⟨rows, hrows, hfit⟩ := exists_compositesFit
  rw [← Array.mem_toList_iff, hrows] at he
  have h := List.all_eq_true.1 (Bool.and_eq_true_iff.1 hfit).2 e he
  obtain ⟨low, high, values⟩ := e
  unfold compositeFits at h
  split at h
  · rename_i a b hvalues
    simp only [Bool.and_eq_true, List.all_cons, beq_iff_eq] at h
    obtain ⟨⟨⟨⟨hhigh, hd, ha, hb, -⟩, -⟩, -⟩, -⟩ := h
    refine ⟨Char.ofNat low, Char.ofNat a, Char.ofNat b, ?_⟩
    rw [toNat_ofNat_of_isCodePoint hd.1, toNat_ofNat_of_isCodePoint ha.1,
      toNat_ofNat_of_isCodePoint hb.1, ← hhigh]
    exact congrArg _ hvalues
  · cases h

/-- What the table says of a composite and its parts. -/
structure Composite.Facts (d a b : Char) : Prop where
  noHangul : ∀ c ∈ [d, a, b], isHangul c.toNat = false
  low : 0x80 ≤ d.toNat ∧ 0x3A < a.toNat ∧ 0x80 ≤ b.toNat
  second : ¬ IsComposite b
  depth : IsSingle d ∨ IsDouble d ∨ IsDouble a

theorem Composite.facts {d a b : Char} (h : Composite d a b) : Composite.Facts d a b := by
  obtain ⟨rows, hrows, hfit⟩ := exists_compositesFit
  have hmem (e : Entry) : e ∈ rows.flatten ↔ e ∈ composites.entries := by
    rw [← hrows, Array.mem_toList_iff]
  have hbit {p : Nat → Bool} {c : Char} : (bitsWithFirst p rows).testBit c.toNat = true ↔
      ∃ x y, Composite c x y ∧ p x.toNat = true := by
    rw [testBit_bitsWithFirst]
    constructor
    · rintro ⟨e, he, hp, hlow, hhigh⟩
      obtain ⟨d, x, y, rfl⟩ := exists_composite ((hmem e).1 he)
      obtain rfl : c = d := Char.toNat_inj.1 (Nat.le_antisymm hhigh hlow)
      exact ⟨x, y, (hmem _).1 he, hp⟩
    · rintro ⟨x, y, hc, hp⟩
      exact ⟨_, (hmem _).2 hc, hp, Nat.le_refl _, Nat.le_refl _⟩
  have hall {c : Char} : (bitsWithFirst (fun _ => true) rows).testBit c.toNat = true ↔
      IsComposite c := by
    rw [hbit]
    simp [IsComposite]
  have hsingle {c : Char} : (bitsWithFirst (fun x =>
      !(bitsWithFirst (fun _ => true) rows).testBit x) rows).testBit c.toNat = true ↔
      IsSingle c := by
    rw [hbit]
    simp only [IsSingle, Bool.not_eq_true', ← Bool.not_eq_true, hall]
  have hfits := List.all_eq_true.1 (Bool.and_eq_true_iff.1 hfit).2 _ ((hmem _).2 h)
  simp only [compositeFits, Bool.and_eq_true, List.all_cons, List.all_nil, Bool.not_eq_true',
    decide_eq_true_eq, Bool.or_eq_true] at hfits
  obtain ⟨⟨⟨⟨-, hd, ha, hb, -⟩, hlow⟩, hsecond⟩, hdepth⟩ := hfits
  refine ⟨?_, ⟨hlow.1.1, hlow.1.2, hlow.2⟩, ?_, ?_⟩
  · simp [hd.2, ha.2, hb.2]
  · rw [← hall, Bool.not_eq_true]
    exact hsecond
  · rw [hsingle, hbit, hbit] at hdepth
    simp only [hsingle] at hdepth
    rwa [or_assoc] at hdepth

/-! ## Taking apart and joining -/

/-- The parts of a syllable are characters. -/
theorem isCodePoint_of_splitSyllable? {n a b : Nat} (h : splitSyllable? n = some (a, b)) :
    isCodePoint a = true ∧ isCodePoint b = true := by
  unfold splitSyllable? firstSyllable at h
  simp only [isCodePoint, Bool.or_eq_true, Bool.and_eq_true, decide_eq_true_eq]
  split at h
  · cases h
  · dsimp only at h
    split at h
    all_goals
      obtain ⟨rfl, rfl⟩ := Prod.mk.inj (Option.some.inj h)
      omega

def IsJamo (n : Nat) : Prop :=
  (0x1100 ≤ n ∧ n < 0x1113) ∨ (0x1161 ≤ n ∧ n < 0x1176) ∨ (0x11A7 < n ∧ n < 0x11C3)

def IsSyllable (n : Nat) : Prop := firstSyllable ≤ n ∧ n < firstSyllable + 11172

theorem isSyllable_of_splitSyllable? {n : Nat} {parts : Nat × Nat}
    (h : splitSyllable? n = some parts) : IsSyllable n := by
  unfold splitSyllable? at h
  unfold IsSyllable
  split at h
  · cases h
  · omega

theorem isHangul_of_isSyllable {n : Nat} (h : IsSyllable n) : isHangul n = true := by
  unfold IsSyllable firstSyllable at h
  simp only [isHangul, Bool.or_eq_true, Bool.and_eq_true, decide_eq_true_eq]
  omega

theorem isHangul_of_isJamo {n : Nat} (h : IsJamo n) : isHangul n = true := by
  unfold IsJamo at h
  simp only [isHangul, Bool.or_eq_true, Bool.and_eq_true, decide_eq_true_eq]
  omega

/-- The parts of a syllable are jamo, or the first one is a syllable of two of them. -/
theorem splitSyllable?_cases {n a b : Nat} (h : splitSyllable? n = some (a, b)) :
    IsJamo b ∧ (IsJamo a ∨ ∃ x y, splitSyllable? a = some (x, y) ∧ IsJamo x ∧ IsJamo y) := by
  unfold splitSyllable? firstSyllable at *
  unfold IsJamo
  split at h
  · cases h
  · dsimp only at h
    split at h
    · simp only [Option.some.injEq, Prod.mk.injEq] at h
      have hopen : (a - 0xAC00) % 28 = 0 := by omega
      refine ⟨by omega, Or.inr ⟨0x1100 + (a - 0xAC00) / 588, 0x1161 + (a - 0xAC00) % 588 / 28, ?_⟩⟩
      rw [if_neg (by omega)]
      exact ⟨if_neg (fun hne => hne hopen), by omega, by omega⟩
    · simp only [Option.some.injEq, Prod.mk.injEq] at h
      exact ⟨by omega, Or.inl (by omega)⟩

theorem find?_composites (c : Char) :
    (∃ a b : Char, Composite c a b ∧
      composites.find? c = some ⟨c.toNat, c.toNat, [a.toNat, b.toNat]⟩) ∨
    (¬ IsComposite c ∧ composites.find? c = none) := by
  cases hfind : composites.find? c with
  | some e =>
    obtain ⟨he, hlow, hhigh⟩ := RangeMap.mem_of_find? hfind
    obtain ⟨d, a, b, rfl⟩ := exists_composite he
    obtain rfl : c = d := Char.toNat_inj.1 (Nat.le_antisymm hhigh hlow)
    exact Or.inl ⟨a, b, he, rfl⟩
  | none =>
    refine Or.inr ⟨fun ⟨a, b, hc⟩ => ?_, rfl⟩
    have hsome := (RangeMap.find?_eq_some_iff ascending_composites c _).2
      ⟨hc, Nat.le_refl _, Nat.le_refl _⟩
    rw [hfind] at hsome
    cases hsome

/-- A character is taken apart into the parts of a composite, or of a syllable. -/
theorem split?_eq_some_iff {c a b : Char} : split? c = some (a, b) ↔
    Composite c a b ∨ splitSyllable? c.toNat = some (a.toNat, b.toNat) := by
  have hsplit : split? = split? := rfl
  conv at hsplit => rhs; delta split?
  rw [hsplit]
  dsimp only
  obtain ⟨x, y, hc, hfind⟩ | ⟨hc, hfind⟩ := find?_composites c
  · have hnone : splitSyllable? c.toNat = none := by
      refine Option.eq_none_iff_forall_ne_some.2 fun parts hparts => ?_
      have hno := hc.facts.noHangul c List.mem_cons_self
      rw [isHangul_of_isSyllable (isSyllable_of_splitSyllable? hparts)] at hno
      cases hno
    rw [hfind, hnone]
    dsimp only
    rw [Char.ofNat_toNat, Char.ofNat_toNat]
    constructor
    · intro h
      obtain ⟨rfl, rfl⟩ := Prod.mk.inj (Option.some.inj h)
      exact Or.inl hc
    · rintro (h | h)
      · have hsome := (RangeMap.find?_eq_some_iff ascending_composites c _).2
          ⟨h, Nat.le_refl _, Nat.le_refl _⟩
        rw [hfind] at hsome
        have hparts := congrArg Entry.values (Option.some.inj hsome)
        simp only [List.cons.injEq, and_true] at hparts
        rw [Char.toNat_inj.1 hparts.1, Char.toNat_inj.1 hparts.2]
      · cases h
  · rw [hfind]
    dsimp only
    have hnot : ¬ Composite c a b := fun h => hc ⟨a, b, h⟩
    rw [or_iff_right hnot, Option.map_eq_some_iff]
    constructor
    · rintro ⟨⟨m, n⟩, hparts, heq⟩
      obtain ⟨hm, hn⟩ := isCodePoint_of_splitSyllable? hparts
      obtain ⟨rfl, rfl⟩ := Prod.mk.inj heq
      rw [hparts, toNat_ofNat_of_isCodePoint hm, toNat_ofNat_of_isCodePoint hn]
    · intro h
      exact ⟨_, h, by rw [Char.ofNat_toNat, Char.ofNat_toNat]⟩

theorem splitSyllable?_of_joinSyllable? {a b n : Nat} (h : joinSyllable? a b = some n) :
    isHangul a = true ∧ isCodePoint n = true ∧ splitSyllable? n = some (a, b) := by
  unfold joinSyllable? firstSyllable at h
  unfold splitSyllable? firstSyllable
  simp only [isHangul, isCodePoint, Bool.or_eq_true, Bool.and_eq_true, decide_eq_true_eq]
  split at h
  · rename_i hparts
    obtain rfl := Option.some.inj h
    rw [if_neg (by omega), if_neg (by omega)]
    refine ⟨by omega, by omega, ?_⟩
    rw [Option.some.injEq, Prod.mk.injEq]
    omega
  · split at h
    · rename_i hparts
      obtain rfl := Option.some.inj h
      rw [if_neg (by omega), if_pos (by omega)]
      refine ⟨by omega, by omega, ?_⟩
      rw [Option.some.injEq, Prod.mk.injEq]
      omega
    · cases h

/-- **What is joined is taken apart again.** -/
theorem split?_of_join? {a b d : Char} (h : join? a b = some d) : split? d = some (a, b) := by
  rw [split?_eq_some_iff]
  have hjoin : join? = join? := rfl
  conv at hjoin => rhs; delta join?
  rw [hjoin] at h
  dsimp only at h
  cases hsyllable : joinSyllable? a.toNat b.toNat with
  | some n =>
    rw [hsyllable] at h
    obtain rfl := Option.some.inj h
    obtain ⟨-, hn, hparts⟩ := splitSyllable?_of_joinSyllable? hsyllable
    rw [toNat_ofNat_of_isCodePoint hn]
    exact Or.inr hparts
  | none =>
    rw [hsyllable] at h
    obtain ⟨e, hfind, rfl⟩ := Option.map_eq_some_iff.1 h
    have hvalues := Array.find?_some hfind
    have he := Array.mem_of_find?_eq_some hfind
    obtain ⟨d, x, y, rfl⟩ := exists_composite he
    simp only [beq_iff_eq, List.cons.injEq, and_true] at hvalues
    obtain rfl := Char.toNat_inj.1 hvalues.1
    obtain rfl := Char.toNat_inj.1 hvalues.2
    show Composite (Char.ofNat d.toNat) x y ∨ _
    rw [Char.ofNat_toNat]
    exact Or.inl he

theorem split?_of_lt {c : Char} (hc : c.toNat < 0x80) : split? c = none := by
  refine Option.eq_none_iff_forall_ne_some.2 fun parts hparts => ?_
  rcases split?_eq_some_iff.1 hparts with h | h
  · have := h.facts.low
    omega
  · rw [splitSyllable?, if_pos (Or.inl (Nat.lt_trans hc (by decide)))] at h
    cases h

/-- Nothing is joined to a character by an ASCII character. -/
theorem join?_of_lt {c : Char} (hc : c.toNat < 0x80) (b : Char) : join? b c = none := by
  refine Option.eq_none_iff_forall_ne_some.2 fun d hd => ?_
  rcases split?_eq_some_iff.1 (split?_of_join? hd) with h | h
  · have := h.facts.low
    omega
  · have hjamo := (splitSyllable?_cases h).1
    unfold IsJamo at hjamo
    omega

/-- Nothing is joined to a character that comes before all first parts. -/
theorem join?_of_le {a : Char} (ha : a.toNat ≤ 0x3A) (b : Char) : join? a b = none := by
  refine Option.eq_none_iff_forall_ne_some.2 fun d hd => ?_
  rcases split?_eq_some_iff.1 (split?_of_join? hd) with h | h
  · have := h.facts.low
    omega
  · obtain ⟨-, hjamo | ⟨x, y, hparts, -⟩⟩ := splitSyllable?_cases h
    · unfold IsJamo at hjamo
      omega
    · have := (isSyllable_of_splitSyllable? hparts).1
      unfold firstSyllable at this
      omega

/-! ## Depth -/

/-- Is the character taken apart in that many steps, into characters that are not taken apart? -/
inductive Splits : Nat → Char → Prop
  | whole {n : Nat} {c : Char} : split? c = none → Splits n c
  | parts {n : Nat} {c a b : Char} :
      split? c = some (a, b) → Splits n a → split? b = none → Splits (n + 1) c

theorem expand_of_none {c : Char} (h : split? c = none) (n : Nat) : expand n c = [c] := by
  cases n with
  | zero => rfl
  | succ n => rw [expand, h, Option.elim_none]

theorem expand_of_some {c a b : Char} (h : split? c = some (a, b)) (n : Nat) :
    expand (n + 1) c = expand n a ++ [b] := by
  rw [expand, h, Option.elim_some]

theorem Splits.expand_eq {n m : Nat} {c : Char} (h : Splits n c) (hm : n ≤ m) :
    expand m c = expand n c := by
  induction h generalizing m with
  | whole hc => rw [expand_of_none hc, expand_of_none hc]
  | parts hc _ _ ih =>
    obtain ⟨m, rfl⟩ := Nat.exists_eq_add_of_le' (Nat.le_of_add_left_le hm)
    rw [expand_of_some hc, expand_of_some hc, ih (Nat.le_of_succ_le_succ hm)]

theorem Splits.mono {n m : Nat} {c : Char} (h : Splits n c) (hm : n ≤ m) : Splits m c := by
  induction h generalizing m with
  | whole hc => exact .whole hc
  | parts hc _ hb ih =>
    obtain ⟨m, rfl⟩ := Nat.exists_eq_add_of_le' (Nat.le_of_add_left_le hm)
    exact .parts hc (ih (Nat.le_of_succ_le_succ hm)) hb

theorem Splits.split?_of_mem {n : Nat} {c x : Char} (h : Splits n c) (hx : x ∈ expand n c) :
    split? x = none := by
  induction h with
  | whole hc =>
    rw [expand_of_none hc, List.mem_singleton] at hx
    rw [hx, hc]
  | parts hc _ hb ih =>
    rw [expand_of_some hc] at hx
    rcases List.mem_append.1 hx with hx | hx
    · exact ih hx
    · rw [List.mem_singleton.1 hx, hb]

theorem split?_eq_none {c : Char} (hc : ¬ IsComposite c) (hs : ¬ IsSyllable c.toNat) :
    split? c = none := by
  refine Option.eq_none_iff_forall_ne_some.2 fun parts hparts => ?_
  rcases split?_eq_some_iff.1 hparts with h | h
  · exact hc ⟨_, _, h⟩
  · exact hs (isSyllable_of_splitSyllable? h)

theorem Composite.not_isSyllable {d a b c : Char} (h : Composite d a b) (hc : c ∈ [d, a, b]) :
    ¬ IsSyllable c.toNat := by
  intro hs
  have hno := h.facts.noHangul c hc
  rw [isHangul_of_isSyllable hs] at hno
  cases hno

theorem Composite.splits {n : Nat} {d a b : Char} (h : Composite d a b) (ha : Splits n a) :
    Splits (n + 1) d := by
  refine .parts (split?_eq_some_iff.2 (Or.inl h)) ha ?_
  exact split?_eq_none h.facts.second (h.not_isSyllable (by simp))

/-- Jamo are not taken apart. -/
theorem split?_jamo {c : Char} (hc : IsJamo c.toNat) : split? c = none := by
  refine split?_eq_none (fun ⟨a, b, h⟩ => ?_) fun hs => ?_
  · have hno := h.facts.noHangul c List.mem_cons_self
    rw [isHangul_of_isJamo hc] at hno
    cases hno
  · unfold IsSyllable firstSyllable at hs
    unfold IsJamo at hc
    omega

theorem IsSingle.splits {d : Char} (h : IsSingle d) : Splits 1 d := by
  obtain ⟨a, b, hd, ha⟩ := h
  refine hd.splits (.whole (split?_eq_none ha ?_))
  exact hd.not_isSyllable (by simp)

theorem IsDouble.splits {d : Char} (h : IsDouble d) : Splits 2 d := by
  obtain ⟨a, b, hd, ha⟩ := h
  exact hd.splits ha.splits

theorem splits_syllable {c a b : Char} (h : splitSyllable? c.toNat = some (a.toNat, b.toNat)) :
    Splits 2 c := by
  obtain ⟨hb, ha⟩ := splitSyllable?_cases h
  refine .parts (split?_eq_some_iff.2 (Or.inr h)) ?_ (split?_jamo hb)
  obtain ha | ⟨x, y, hparts, hx, hy⟩ := ha
  · exact .whole (split?_jamo ha)
  · obtain ⟨hcx, hcy⟩ := isCodePoint_of_splitSyllable? hparts
    rw [← toNat_ofNat_of_isCodePoint hcx] at hparts hx
    rw [← toNat_ofNat_of_isCodePoint hcy] at hparts hy
    exact .parts (split?_eq_some_iff.2 (Or.inr hparts)) (.whole (split?_jamo hx)) (split?_jamo hy)

/-- **Every character is taken apart in three steps.** -/
theorem splits (c : Char) : Splits 3 c := by
  cases hc : split? c with
  | none => exact .whole hc
  | some parts =>
    obtain ⟨a, b⟩ := parts
    rcases split?_eq_some_iff.1 hc with h | h
    · rcases h.facts.depth with hd | hd | ha
      · exact hd.splits.mono (by omega)
      · exact hd.splits.mono (by omega)
      · exact h.splits ha.splits
    · exact (splits_syllable h).mono (by omega)

/-- What is taken apart ends in its second part. -/
theorem expand_of_split? {c a b : Char} (h : split? c = some (a, b)) :
    expand 4 c = expand 4 a ++ [b] := by
  have hthree : expand 4 a = expand 3 a := (splits a).expand_eq (Nat.le_succ 3)
  rw [hthree, expand_of_some h]

theorem split?_of_mem_expand {c x : Char} (hx : x ∈ expand 4 c) : split? x = none := by
  have hthree : expand 4 c = expand 3 c := (splits c).expand_eq (Nat.le_succ 3)
  rw [hthree] at hx
  exact (splits c).split?_of_mem hx

end LoginGate.Text
