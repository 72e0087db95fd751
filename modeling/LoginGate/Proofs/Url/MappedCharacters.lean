import LoginGate.Proofs.Checks
import LoginGate.Proofs.Text.Composition
import LoginGate.Url.Domain

/-!
# Characters that mapping keeps

What a character of a domain name is mapped to is not mapped to anything else
(`not_isChanged_of_mapChar?`), and of a composite and its parts either none is mapped to anything
else or the composite and a part are (`isChanged_of_split?`).  Of the ASCII characters only the
capital letters are mapped (`not_isChanged_iff_isSmall`).

The tables of the mapping and of the composites are checked together, each of them as one set of
code points (`Rows.fit`).
-/

namespace LoginGate.Url

open LoginGate.Text
open RangeMap (Entry)

/-! ## The tables -/

/-- Every other code point from `first` on, as many as the entry has such places. -/
def everyOther (first : Nat) (e : Entry) : List (Nat × Nat) :=
  (List.range ((e.high - e.low) / 2 + 1)).map fun i => (first + 2 * i, first + 2 * i)

/-- What the characters of an entry are replaced by. -/
def replacements (e : Entry) : List (Nat × Nat) :=
  match e.values with
  | [target] => [(target, target + (e.high - e.low))]
  | targets => targets.map fun target => (target, target)

/-- What every other character of an entry is replaced by. -/
def alternatives (e : Entry) : List (Nat × Nat) :=
  e.values.flatMap fun target => everyOther target e

/-- The tables of the mapping and of the composites, line by line. -/
structure Rows where
  disallowed : List (List (Nat × Nat))
  dropped : List (List (Nat × Nat))
  replaced : List (List Entry)
  alternating : List (List Entry)
  composites : List (List Entry)

namespace Rows

/-- The characters that mapping does not keep. -/
def changed (rows : Rows) : Nat :=
  rowsBits rows.disallowed ||| rowsBits rows.dropped |||
    (rowsBits (rows.replaced.map fun row => row.flatMap fun e => [e.range]) |||
      rowsBits (rows.alternating.map fun row => row.flatMap fun e => everyOther e.low e))

/-- The characters that others are mapped to. -/
def targets (rows : Rows) : Nat :=
  rowsBits (rows.replaced.map fun row => row.flatMap replacements) |||
    rowsBits (rows.alternating.map fun row => row.flatMap alternatives)

/-- Hangul syllables and the jamo that they are made of. -/
def hangul : List (Nat × Nat) :=
  [(0x1100, 0x1112), (0x1161, 0x1175), (0x11A8, 0x11C2), (0xAC00, 0xD7A3)]

/-- Is a composite changed just if one of its parts is? -/
def compositeAgrees (rows : Rows) (e : Entry) : Bool :=
  match e.values with
  | [a, b] =>
    rows.changed.testBit e.low == (rows.changed.testBit a || rows.changed.testBit b)
  | _ => false

/-- What is checked of the tables together. -/
def fit (rows : Rows) : Bool :=
  isAscending 0 rows.disallowed.flatten && isAscending 0 rows.dropped.flatten &&
  isAscending 0 (rows.replaced.flatten.map Entry.range) &&
  isAscending 0 (rows.alternating.flatten.map Entry.range) &&
  rows.alternating.flatten.all (fun e => e.values.length == 1) &&
  rows.changed &&& rows.targets == 0 &&
  spanBits (0xD800, 0xDFFF) &&& rows.targets == 0 && rows.targets >>> 0x110000 == 0 &&
  rows.changed &&& rowBits hangul == 0 &&
  rows.changed &&& spanBits (0, 0x7F) == spanBits (0x41, 0x5A) &&
  rows.composites.flatten.all rows.compositeAgrees

end Rows

theorem exists_rows_of_spelled {l₁ l₂ l₃ l₄ l₅ : List String} {t₁ t₂ t₃ t₄ t₅ : List (List Char)}
    (h₁ : SpelledAs l₁ t₁) (h₂ : SpelledAs l₂ t₂) (h₃ : SpelledAs l₃ t₃) (h₄ : SpelledAs l₄ t₄)
    (h₅ : SpelledAs l₅ t₅)
    (hfit : Rows.fit ⟨rowsOf RangeTable.item? t₁, rowsOf RangeTable.item? t₂,
      rowsOf RangeMap.item? t₃, rowsOf RangeMap.item? t₄, rowsOf RangeMap.item? t₅⟩ = true) :
    ∃ rows : Rows, (RangeTable.ofLines l₁).ranges.toList = rows.disallowed.flatten ∧
      (RangeTable.ofLines l₂).ranges.toList = rows.dropped.flatten ∧
      (RangeMap.ofLines l₃).entries.toList = rows.replaced.flatten ∧
      (RangeMap.ofLines l₄).entries.toList = rows.alternating.flatten ∧
      (RangeMap.ofLines l₅).entries.toList = rows.composites.flatten ∧ rows.fit = true :=
  ⟨_, RangeTable.toList_ranges h₁, RangeTable.toList_ranges h₂, RangeMap.toList_entries h₃,
    RangeMap.toList_entries h₄, RangeMap.toList_entries h₅, hfit⟩

theorem exists_rows : ∃ rows : Rows, disallowed.ranges.toList = rows.disallowed.flatten ∧
    dropped.ranges.toList = rows.dropped.flatten ∧
    replaced.entries.toList = rows.replaced.flatten ∧
    alternating.entries.toList = rows.alternating.flatten ∧
    composites.entries.toList = rows.composites.flatten ∧ rows.fit = true := by
  apply exists_rows_of_spelled
  iterate 5
    · repeat apply SpelledAs.cons
      exact .nil
  decide +kernel

/-! ## What mapping changes -/

/-- Does mapping drop, replace or refuse the character? -/
def IsChanged (n : Nat) : Prop :=
  (InRanges n disallowed.ranges.toList ∨ InRanges n dropped.ranges.toList) ∨
    (∃ e ∈ replaced.entries.toList, InRanges n [e.range]) ∨
    ∃ e ∈ alternating.entries.toList, InRanges n (everyOther e.low e)

def IsTarget (n : Nat) : Prop :=
  (∃ e ∈ replaced.entries.toList, InRanges n (replacements e)) ∨
    ∃ e ∈ alternating.entries.toList, InRanges n (alternatives e)

theorem inRanges_everyOther (first n : Nat) (e : Entry) : InRanges n (everyOther first e) ↔
    first ≤ n ∧ n - first ≤ e.high - e.low ∧ (n - first) % 2 = 0 := by
  simp only [InRanges, everyOther, List.mem_map, List.mem_range]
  constructor
  · rintro ⟨_, ⟨i, hi, rfl⟩, hlow, hhigh⟩
    dsimp only at hlow hhigh
    omega
  · intro h
    exact ⟨_, ⟨(n - first) / 2, by omega, rfl⟩, by dsimp only; omega, by dsimp only; omega⟩

/-- What the tables say of each other. -/
structure TableFacts : Prop where
  disallowed : Ascending Url.disallowed.ranges.toList
  dropped : Ascending Url.dropped.ranges.toList
  replaced : Ascending (Url.replaced.entries.toList.map Entry.range)
  alternating : Ascending (Url.alternating.entries.toList.map Entry.range)
  one : ∀ e ∈ Url.alternating.entries, e.values.length = 1
  target : ∀ n, IsTarget n → ¬ IsChanged n ∧ isCodePoint n = true
  hangul : ∀ n, IsJamo n ∨ IsSyllable n → ¬ IsChanged n
  low : ∀ n < 0x80, IsChanged n ↔ 0x41 ≤ n ∧ n ≤ 0x5A
  composite : ∀ d a b, Composite d a b →
    (IsChanged d.toNat ↔ IsChanged a.toNat ∨ IsChanged b.toNat)

theorem tableFacts : TableFacts := by
  obtain ⟨rows, h₁, h₂, h₃, h₄, h₅, hfit⟩ := exists_rows
  have hchanged (n : Nat) : rows.changed.testBit n = true ↔ IsChanged n := by
    simp only [Rows.changed, Nat.testBit_or, Bool.or_eq_true, testBit_rowsBits, inRanges_flatMap,
      IsChanged, h₁, h₂, h₃, h₄]
  have htarget (n : Nat) : rows.targets.testBit n = true ↔ IsTarget n := by
    simp only [Rows.targets, Nat.testBit_or, Bool.or_eq_true, testBit_rowsBits, inRanges_flatMap,
      IsTarget, h₃, h₄]
  simp only [Rows.fit, Bool.and_eq_true, List.all_eq_true, beq_iff_eq] at hfit
  obtain ⟨⟨⟨⟨⟨⟨⟨⟨⟨⟨ha₁, ha₂⟩, ha₃⟩, ha₄⟩, hone⟩, hkept⟩, hsurrogate⟩, hbound⟩, hhangul⟩, hlow⟩,
    hcomposite⟩ := hfit
  constructor
  · rw [h₁]
    exact ascending_of_isAscending ha₁
  · rw [h₂]
    exact ascending_of_isAscending ha₂
  · rw [h₃]
    exact ascending_of_isAscending ha₃
  · rw [h₄]
    exact ascending_of_isAscending ha₄
  · intro e he
    exact hone e (by rwa [← h₄, Array.mem_toList_iff])
  · intro n hn
    have hbit := (htarget n).2 hn
    constructor
    · rw [← hchanged, not_mem_of_land_eq_zero hkept hbit]
      exact Bool.false_ne_true
    · have hbelow : n < 0x110000 := by
        refine Nat.lt_of_not_le fun hle => ?_
        obtain ⟨i, rfl⟩ := Nat.exists_eq_add_of_le hle
        rw [← Nat.testBit_shiftRight, hbound, Nat.zero_testBit] at hbit
        cases hbit
      have hnone := not_mem_of_land_eq_zero hsurrogate hbit
      rw [← Bool.not_eq_true, testBit_spanBits] at hnone
      simp only [isCodePoint, Bool.or_eq_true, Bool.and_eq_true, decide_eq_true_eq]
      omega
  · intro n hn
    have hbit : (rowBits Rows.hangul).testBit n = true := by
      rw [testBit_rowBits]
      unfold IsJamo IsSyllable firstSyllable at hn
      simp only [InRanges, Rows.hangul, List.mem_cons, List.not_mem_nil, or_false, exists_eq_or_imp,
        exists_eq_left]
      omega
    rw [← hchanged, not_mem_of_land_eq_zero hhangul hbit]
    exact Bool.false_ne_true
  · intro n hn
    have hspan := (testBit_spanBits (0, 0x7F) n).2 ⟨Nat.zero_le n, Nat.le_of_lt_succ hn⟩
    rw [← hchanged, ← testBit_spanBits (0x41, 0x5A), ← hlow, Nat.testBit_and, hspan,
      Bool.and_true]
  · intro d a b h
    have hagrees := hcomposite _ (by rwa [← h₅, Array.mem_toList_iff])
    rw [← hchanged, ← hchanged, ← hchanged, ← Bool.or_eq_true]
    exact Bool.eq_iff_iff.1 (eq_of_beq hagrees)

/-! ## Single characters -/

theorem contains_iff_inRanges {t : RangeTable} (h : Ascending t.ranges.toList) (c : Char) :
    t.contains c = true ↔ InRanges c.toNat t.ranges.toList := by
  rw [RangeTable.contains_iff h]
  simp only [InRanges, Array.mem_toList_iff]

/-- An entry of every other character has one target. -/
theorem alternating_cases {c : Char} {e : Entry} (h : alternating.find? c = some e) :
    ∃ low high target, e = ⟨low, high, [target]⟩ ∧ e ∈ alternating.entries.toList ∧
      low ≤ c.toNat ∧ c.toNat ≤ high := by
  obtain ⟨hmem, hlow, hhigh⟩ := RangeMap.mem_of_find? h
  obtain ⟨target, htarget⟩ := List.length_eq_one_iff.1 (tableFacts.one e hmem)
  obtain ⟨low, high, values⟩ := e
  dsimp only at htarget
  subst htarget
  exact ⟨low, high, target, rfl, Array.mem_toList_iff.2 hmem, hlow, hhigh⟩

/-- **A character that mapping does not change is mapped to itself.** -/
theorem mapChar?_of_not_isChanged {c : Char} (h : ¬ IsChanged c.toNat) : mapChar? c = some [c] := by
  have hdisallowed : disallowed.contains c = false := by
    rw [← Bool.not_eq_true, contains_iff_inRanges tableFacts.disallowed]
    exact fun hn => h (Or.inl (Or.inl hn))
  have hdropped : dropped.contains c = false := by
    rw [← Bool.not_eq_true, contains_iff_inRanges tableFacts.dropped]
    exact fun hn => h (Or.inl (Or.inr hn))
  have hreplaced : replaced.find? c = none := by
    refine Option.eq_none_iff_forall_ne_some.2 fun e he => ?_
    obtain ⟨hmem, hn⟩ := RangeMap.mem_of_find? he
    have he := Array.mem_toList_iff.2 hmem
    exact h (Or.inr (Or.inl ⟨e, he, e.range, List.mem_singleton_self _, hn⟩))
  unfold mapChar?
  generalize disallowed.contains c = refused at hdisallowed ⊢
  generalize dropped.contains c = left at hdropped ⊢
  generalize replaced.find? c = replacing at hreplaced ⊢
  generalize halternating : alternating.find? c = alternative
  subst hdisallowed hdropped hreplaced
  cases alternative with
  | none => rfl
  | some e =>
    obtain ⟨low, high, target, rfl, hmem, hlow, hhigh⟩ := alternating_cases halternating
    have hodd : ¬ (c.toNat - low) % 2 = 0 := by
      refine fun heven => h (Or.inr (Or.inr ⟨_, hmem, ?_⟩))
      rw [inRanges_everyOther]
      dsimp only
      omega
    show (if (c.toNat - low) % 2 = 0 then some [Char.ofNat (target + (c.toNat - low))]
      else some [c]) = some [c]
    exact if_neg hodd

theorem not_isChanged_of_isTarget {n : Nat} (h : IsTarget n) :
    ¬ IsChanged (Char.ofNat n).toNat := by
  obtain ⟨hkept, hn⟩ := tableFacts.target n h
  rwa [toNat_ofNat_of_isCodePoint hn]

/-- A character that no table changes. -/
theorem not_isChanged_of_find? {c : Char} (hdisallowed : disallowed.contains c ≠ true)
    (hdropped : dropped.contains c ≠ true) (hreplaced : replaced.find? c = none)
    (halternating : ∀ e, alternating.find? c = some e → (c.toNat - e.low) % 2 ≠ 0) :
    ¬ IsChanged c.toNat := by
  rw [Ne, contains_iff_inRanges tableFacts.disallowed] at hdisallowed
  rw [Ne, contains_iff_inRanges tableFacts.dropped] at hdropped
  rintro ((h | h) | ⟨e, he, r, hr, hn⟩ | ⟨e, he, hn⟩)
  · exact hdisallowed h
  · exact hdropped h
  · obtain rfl := List.mem_singleton.1 hr
    have hsome := (RangeMap.find?_eq_some_iff tableFacts.replaced c e).2
      ⟨Array.mem_toList_iff.1 he, hn⟩
    rw [hreplaced] at hsome
    cases hsome
  · rw [inRanges_everyOther] at hn
    have hle := tableFacts.alternating.nonempty e.range (List.mem_map_of_mem he)
    dsimp only [Entry.range] at hle
    have hsome := (RangeMap.find?_eq_some_iff tableFacts.alternating c e).2
      ⟨Array.mem_toList_iff.1 he, hn.1, by omega⟩
    exact halternating e hsome hn.2.2

def replacement (e : Entry) (c : Char) : List Char :=
  match e.values with
  | [target] => [Char.ofNat (target + (c.toNat - e.low))]
  | targets => targets.map Char.ofNat

theorem exists_replacements {c d : Char} {e : Entry} (h : replaced.find? c = some e)
    (hd : d ∈ replacement e c) : ∃ n, d = Char.ofNat n ∧ InRanges n (replacements e) := by
  obtain ⟨-, hn⟩ := RangeMap.mem_of_find? h
  obtain ⟨low, high, values⟩ := e
  dsimp only at hn
  rcases values with _ | ⟨target, _ | ⟨second, targets⟩⟩
  · cases hd
  · refine ⟨_, List.mem_singleton.1 hd, (target, target + (high - low)), ?_, ?_⟩
    · exact List.mem_singleton_self _
    · dsimp only
      omega
  · obtain ⟨n, hn, rfl⟩ := List.mem_map.1 hd
    exact ⟨n, rfl, (n, n), List.mem_map_of_mem hn, Nat.le_refl n, Nat.le_refl n⟩

/-- **What a character is mapped to is not changed again.** -/
theorem not_isChanged_of_mapChar? {c d : Char} {ds : List Char} (h : mapChar? c = some ds)
    (hd : d ∈ ds) : ¬ IsChanged d.toNat := by
  unfold mapChar? at h
  generalize hrefused : disallowed.contains c = refused at h
  generalize hleft : dropped.contains c = left at h
  generalize hreplaced : replaced.find? c = replacing at h
  generalize halternating : alternating.find? c = alternative at h
  -- where the character stays as it is, no table has it
  have hkept (hrefused : disallowed.contains c = false) (hleft : dropped.contains c = false)
      (hreplaced : replaced.find? c = none) (hsame : some [c] = some ds)
      (hodd : ∀ e, alternating.find? c = some e → (c.toNat - e.low) % 2 ≠ 0) :
      ¬ IsChanged d.toNat := by
    obtain rfl := Option.some.inj hsame
    rw [List.mem_singleton.1 hd]
    exact not_isChanged_of_find? (by simp [hrefused]) (by simp [hleft]) hreplaced hodd
  cases refused with
  | true => cases h
  | false =>
  cases left with
  | true =>
    obtain rfl := Option.some.inj h
    cases hd
  | false =>
  cases replacing with
  | some e =>
    have hds : some (replacement e c) = some ds := by
      rw [← h]
      obtain ⟨low, high, _ | ⟨target, _ | ⟨second, targets⟩⟩⟩ := e <;> rfl
    obtain rfl := Option.some.inj hds
    obtain ⟨n, rfl, hn⟩ := exists_replacements hreplaced hd
    have hmem := Array.mem_toList_iff.2 (RangeMap.mem_of_find? hreplaced).1
    exact not_isChanged_of_isTarget (Or.inl ⟨_, hmem, hn⟩)
  | none =>
  cases alternative with
  | none =>
    refine hkept hrefused hleft hreplaced h fun e he => ?_
    rw [halternating] at he
    cases he
  | some e =>
    obtain ⟨low, high, target, rfl, hmem, hlow, hhigh⟩ := alternating_cases halternating
    replace h : (if (c.toNat - low) % 2 = 0 then some [Char.ofNat (target + (c.toNat - low))]
      else some [c]) = some ds := h
    by_cases heven : (c.toNat - low) % 2 = 0
    · rw [if_pos heven] at h
      obtain rfl := Option.some.inj h
      rw [List.mem_singleton.1 hd]
      refine not_isChanged_of_isTarget (Or.inr ⟨_, hmem, ?_⟩)
      show InRanges _ ([target].flatMap fun t => everyOther t ⟨low, high, [target]⟩)
      rw [List.flatMap_singleton, inRanges_everyOther]
      dsimp only
      omega
    · rw [if_neg heven] at h
      refine hkept hrefused hleft hreplaced h fun e he => ?_
      rw [halternating] at he
      obtain rfl := Option.some.inj he
      exact heven

theorem isChanged_of_split? {c a b : Char} (h : split? c = some (a, b)) :
    IsChanged c.toNat ↔ IsChanged a.toNat ∨ IsChanged b.toNat := by
  rcases split?_eq_some_iff.1 h with h | h
  · exact tableFacts.composite c a b h
  · have hc := tableFacts.hangul _ (Or.inr (isSyllable_of_splitSyllable? h))
    obtain ⟨hb, ha⟩ := splitSyllable?_cases h
    have hkeptb := tableFacts.hangul _ (Or.inl hb)
    have hkepta : ¬ IsChanged a.toNat := by
      obtain ha | ⟨x, y, hparts, -⟩ := ha
      · exact tableFacts.hangul _ (Or.inl ha)
      · exact tableFacts.hangul _ (Or.inr (isSyllable_of_splitSyllable? hparts))
    simp [hc, hkepta, hkeptb]

/-- An ASCII character that is no capital letter. -/
def IsSmall (c : Char) : Prop := c.toNat < 0x80 ∧ (c.toNat < 0x41 ∨ 0x5A < c.toNat)

instance (c : Char) : Decidable (IsSmall c) :=
  inferInstanceAs (Decidable (c.toNat < 0x80 ∧ (c.toNat < 0x41 ∨ 0x5A < c.toNat)))

theorem not_isChanged_iff_isSmall {c : Char} (hc : c.toNat < 0x80) :
    ¬ IsChanged c.toNat ↔ IsSmall c := by
  rw [tableFacts.low c.toNat hc, IsSmall]
  omega

/-! ## Names -/

theorem mapM_eq_some_map {α β : Type} {f : α → Option β} {g : α → β} {l : List α}
    (h : ∀ a ∈ l, f a = some (g a)) : l.mapM f = some (l.map g) := by
  induction l with
  | nil => rfl
  | cons a l ih =>
    rw [List.mapM_cons, h a List.mem_cons_self, ih fun b hb => h b (List.mem_cons_of_mem a hb)]
    rfl

/-- A name of characters that are kept is only composed. -/
theorem mapped?_of_not_isChanged {name : List Char} (h : ∀ c ∈ name, ¬ IsChanged c.toNat) :
    mapped? name = some (composed name) := by
  rw [mapped?, mapM_eq_some_map fun c hc => mapChar?_of_not_isChanged (h c hc), Option.map_some,
    ← List.flatMap_def, List.flatMap_singleton']

/-- All characters of a mapped name are kept. -/
theorem not_isChanged_of_mapped? {name mapped : List Char} (h : mapped? name = some mapped) :
    ∀ c ∈ mapped, ¬ IsChanged c.toNat := by
  obtain ⟨parts, hparts, rfl⟩ := Option.map_eq_some_iff.1 h
  refine forall_mem_composed (p := fun c => ¬ IsChanged c.toNat) ?_ ?_ fun d hd => ?_
  · intro c a b hsplit hc
    rwa [isChanged_of_split? hsplit, not_or] at hc
  · intro a b d hjoin ha hb
    rw [isChanged_of_split? (split?_of_join? hjoin), not_or]
    exact ⟨ha, hb⟩
  · obtain ⟨part, hpart, hd⟩ := List.mem_flatten.1 hd
    obtain ⟨c, -, hc⟩ := exists_of_forall₂ (mapM_eq_some_iff_forall₂.1 hparts) hpart
    exact not_isChanged_of_mapChar? hc hd

/-- **The labels of a mapped name are mapped to themselves.** -/
theorem mapped?_of_mem_pieces {name mapped label : List Char} (h : mapped? name = some mapped)
    (hlabel : label ∈ pieces '.' mapped) : mapped? label = some label := by
  have hkept : ∀ c ∈ label, ¬ IsChanged c.toNat := fun c hc =>
    not_isChanged_of_mapped? h c (mem_of_mem_pieces hlabel hc)
  obtain ⟨parts, -, rfl⟩ := Option.map_eq_some_iff.1 h
  rw [mapped?_of_not_isChanged hkept, composed_of_mem_pieces hlabel]

end LoginGate.Url
