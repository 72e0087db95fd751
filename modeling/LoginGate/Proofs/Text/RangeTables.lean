import LoginGate.Text.RangeTable

/-!
# Looking characters up in tables

Looking a character up by halving never finds a range that does not hold it, in whatever order the
ranges are (`contains_eq_false`, `find?_eq_none`).  If they are in ascending order, it finds the one
that holds it (`contains_iff`, `find?_eq_some_iff`).  What holds of every range is checked on the
text of the table: `SpelledAs` gives its lines as the characters that they are written with, so that
nothing has to be decoded first.

    SpelledAs lines texts → (∀ text ∈ texts, …) → ∀ r ∈ (ofLines lines).ranges, p r = true

What holds of a table as a whole is checked on what is read from its lines, the rows of the table
(`toList_ranges`, `toList_entries`).  A set of ranges is the number with the bits of its code points
(`testBit_rowsBits`), so that tables are compared as a whole: two of them share no code point if no
bit is set in both (`not_mem_of_land_eq_zero`).
-/

namespace LoginGate.Text

/-- Are these the characters of the lines of a table? -/
inductive SpelledAs : List String → List (List Char) → Prop
  | nil : SpelledAs [] []
  | cons {line : List Char} {lines : List String} {texts : List (List Char)} :
      SpelledAs lines texts → SpelledAs (String.ofList line :: lines) (line :: texts)

theorem SpelledAs.map_toList {lines : List String} {texts : List (List Char)}
    (h : SpelledAs lines texts) : lines.map String.toList = texts := by
  induction h with
  | nil => rfl
  | cons _ ih => rw [List.map_cons, String.toList_ofList, ih]

/-- What is read from every piece of every line of a table. -/
theorem mem_flatMap_pieces {β : Type} {item? : List Char → Option β} {p : β → Bool}
    {lines : List String} {texts : List (List Char)} (h : SpelledAs lines texts)
    (hp : (texts.all fun text => ((pieces ' ' text).filterMap item?).all p) = true) :
    ∀ r ∈ lines.flatMap (fun line => (pieces ' ' line.toList).filterMap item?), p r = true := by
  intro r hr
  obtain ⟨line, hline, hr⟩ := List.mem_flatMap.1 hr
  have htext : line.toList ∈ texts := h.map_toList ▸ List.mem_map_of_mem hline
  exact List.all_eq_true.1 (List.all_eq_true.1 hp _ htext) r hr

/-- What is read from the lines of a table. -/
def rowsOf {β : Type} (item? : List Char → Option β) (texts : List (List Char)) : List (List β) :=
  texts.map fun text => (pieces ' ' text).filterMap item?

theorem flatMap_pieces {β : Type} {item? : List Char → Option β} {lines : List String}
    {texts : List (List Char)} (h : SpelledAs lines texts) :
    lines.flatMap (fun line => (pieces ' ' line.toList).filterMap item?) =
      (rowsOf item? texts).flatten := by
  rw [rowsOf, ← h.map_toList, List.map_map, List.flatMap_def]
  rfl

/-! ## Ranges in ascending order -/

/-- Are these ranges, each of them behind the one before? -/
structure Ascending (ranges : List (Nat × Nat)) : Prop where
  nonempty : ∀ r ∈ ranges, r.1 ≤ r.2
  apart : ranges.Pairwise fun r s => r.2 < s.1

/-- Are these ranges of code points from `n` on, each of them behind the one before? -/
def isAscending (n : Nat) : List (Nat × Nat) → Bool
  | [] => true
  | r :: rest => n ≤ r.1 && r.1 ≤ r.2 && isAscending (r.2 + 1) rest

theorem le_of_isAscending {n : Nat} {ranges : List (Nat × Nat)} (h : isAscending n ranges = true) :
    ∀ r ∈ ranges, n ≤ r.1 ∧ r.1 ≤ r.2 := by
  induction ranges generalizing n with
  | nil => simp
  | cons s rest ih =>
    simp only [isAscending, Bool.and_eq_true, decide_eq_true_eq] at h
    intro r hr
    rcases List.mem_cons.1 hr with rfl | hr
    · exact h.1
    · have := ih h.2 r hr
      omega

theorem ascending_of_isAscending {n : Nat} {ranges : List (Nat × Nat)}
    (h : isAscending n ranges = true) : Ascending ranges := by
  refine ⟨fun r hr => (le_of_isAscending h r hr).2, ?_⟩
  induction ranges generalizing n with
  | nil => exact .nil
  | cons s rest ih =>
    simp only [isAscending, Bool.and_eq_true] at h
    refine List.pairwise_cons.2 ⟨fun r hr => ?_, ih h.2⟩
    exact (le_of_isAscending h.2 r hr).1

theorem Ascending.lt_of_lt {ranges : List (Nat × Nat)} (h : Ascending ranges) {i j : Nat}
    {r s : Nat × Nat} (hr : ranges[i]? = some r) (hs : ranges[j]? = some s) (hij : i < j) :
    r.2 < s.1 := by
  obtain ⟨hi, rfl⟩ := List.getElem?_eq_some_iff.1 hr
  obtain ⟨hj, rfl⟩ := List.getElem?_eq_some_iff.1 hs
  exact List.pairwise_iff_getElem.1 h.apart i j hi hj hij

/-- The range in the middle holds the code point, or it tells the half that holds it. -/
theorem Ascending.half {ranges : List (Nat × Nat)} (h : Ascending ranges) {i mid n : Nat}
    {r s : Nat × Nat} (hr : ranges[i]? = some r) (hn : r.1 ≤ n ∧ n ≤ r.2)
    (hs : ranges[mid]? = some s) :
    (n < s.1 → i < mid) ∧ (s.2 < n → mid < i) ∧ (s.1 ≤ n → n ≤ s.2 → i = mid) := by
  have hle := h.nonempty s (List.mem_of_getElem? hs)
  rcases Nat.lt_trichotomy i mid with hi | rfl | hi
  · have := h.lt_of_lt hr hs hi
    omega
  · obtain rfl := Option.some.inj (hr.symm.trans hs)
    omega
  · have := h.lt_of_lt hs hr hi
    omega

namespace RangeTable

theorem toList_ranges {lines : List String} {texts : List (List Char)} (h : SpelledAs lines texts) :
    (ofLines lines).ranges.toList = (rowsOf item? texts).flatten :=
  flatMap_pieces h

theorem forall_mem_ranges {p : Nat × Nat → Bool} {lines : List String} {texts : List (List Char)}
    (h : SpelledAs lines texts)
    (hp : (texts.all fun text => ((pieces ' ' text).filterMap item?).all p) = true) :
    ∀ r ∈ (ofLines lines).ranges, p r = true := by
  intro r hr
  exact mem_flatMap_pieces h hp r (List.mem_toArray.1 hr)

theorem search_eq_false {ranges : Array (Nat × Nat)} {n : Nat}
    (h : ∀ r ∈ ranges, n < r.1 ∨ r.2 < n) (lo hi : Nat) : search ranges n lo hi = false := by
  fun_induction search ranges n lo hi with
  | case1 => rfl
  | case2 _ _ _ _ _ _ _ _ ih => exact ih
  | case3 _ _ _ _ _ _ _ _ _ ih => exact ih
  | case4 lo hi _ mid a b hab hlow hhigh =>
    rcases h _ (Array.mem_of_getElem? hab) with h | h
    · exact absurd h hlow
    · exact absurd h hhigh
  | case5 => rfl

theorem contains_eq_false {t : RangeTable} {c : Char}
    (h : ∀ r ∈ t.ranges, c.toNat < r.1 ∨ r.2 < c.toNat) : t.contains c = false :=
  search_eq_false h 0 t.ranges.size

theorem exists_of_search {ranges : Array (Nat × Nat)} {n lo hi : Nat}
    (h : search ranges n lo hi = true) : ∃ r ∈ ranges, r.1 ≤ n ∧ n ≤ r.2 := by
  fun_induction search ranges n lo hi with
  | case1 => cases h
  | case2 _ _ _ _ _ _ _ _ ih => exact ih h
  | case3 _ _ _ _ _ _ _ _ _ ih => exact ih h
  | case4 lo hi _ mid a b hab hlow hhigh =>
    exact ⟨_, Array.mem_of_getElem? hab, Nat.not_lt.1 hlow, Nat.not_lt.1 hhigh⟩
  | case5 => cases h

/-- A range between the ends of the search is found. -/
theorem search_eq_true {ranges : Array (Nat × Nat)} (h : Ascending ranges.toList) {n i : Nat}
    {r : Nat × Nat} (hr : ranges[i]? = some r) (hn : r.1 ≤ n ∧ n ≤ r.2) (lo hi : Nat)
    (hlo : lo ≤ i) (hhi : i < hi) (hsize : hi ≤ ranges.size) :
    search ranges n lo hi = true := by
  fun_induction search ranges n lo hi with
  | case1 lo hi hlt mid hnone =>
    have := Array.getElem?_eq_none_iff.1 hnone
    omega
  | case2 lo hi hlt mid a b hab hlow ih =>
    have := h.half (by simpa using hr) hn (by simpa using hab)
    exact ih hlo (this.1 hlow) (by omega)
  | case3 lo hi hlt mid a b hab hlow hhigh ih =>
    have := h.half (by simpa using hr) hn (by simpa using hab)
    exact ih (this.2.1 hhigh) hhi hsize
  | case4 => rfl
  | case5 lo hi hge => omega

/-- **The characters of a table in ascending order.** -/
theorem contains_iff {t : RangeTable} (h : Ascending t.ranges.toList) (c : Char) :
    t.contains c = true ↔ ∃ r ∈ t.ranges, r.1 ≤ c.toNat ∧ c.toNat ≤ r.2 := by
  constructor
  · exact exists_of_search
  · rintro ⟨r, hr, hn⟩
    obtain ⟨i, hi, rfl⟩ := Array.mem_iff_getElem.1 hr
    exact search_eq_true h (Array.getElem?_eq_getElem hi) hn 0 _ (Nat.zero_le i) hi (Nat.le_refl _)

end RangeTable

namespace RangeMap

theorem toList_entries {lines : List String} {texts : List (List Char)}
    (h : SpelledAs lines texts) : (ofLines lines).entries.toList = (rowsOf item? texts).flatten :=
  flatMap_pieces h

theorem forall_mem_entries {p : Entry → Bool} {lines : List String} {texts : List (List Char)}
    (h : SpelledAs lines texts)
    (hp : (texts.all fun text => ((pieces ' ' text).filterMap item?).all p) = true) :
    ∀ e ∈ (ofLines lines).entries, p e = true := by
  intro e he
  exact mem_flatMap_pieces h hp e (List.mem_toArray.1 he)

theorem search_eq_none {entries : Array Entry} {n : Nat}
    (h : ∀ e ∈ entries, n < e.low ∨ e.high < n) (lo hi : Nat) :
    search entries n lo hi = none := by
  fun_induction search entries n lo hi with
  | case1 => rfl
  | case2 _ _ _ _ _ _ _ ih => exact ih
  | case3 _ _ _ _ _ _ _ _ ih => exact ih
  | case4 lo hi _ mid e he hlow hhigh =>
    rcases h _ (Array.mem_of_getElem? he) with h | h
    · exact absurd h hlow
    · exact absurd h hhigh
  | case5 => rfl

theorem find?_eq_none {m : RangeMap} {c : Char}
    (h : ∀ e ∈ m.entries, c.toNat < e.low ∨ e.high < c.toNat) : m.find? c = none :=
  search_eq_none h 0 m.entries.size

def Entry.range (e : Entry) : Nat × Nat := (e.low, e.high)

theorem mem_of_search {entries : Array Entry} {n : Nat} {e : Entry} {lo hi : Nat}
    (h : search entries n lo hi = some e) : e ∈ entries ∧ e.low ≤ n ∧ n ≤ e.high := by
  fun_induction search entries n lo hi with
  | case1 => cases h
  | case2 _ _ _ _ _ _ _ ih => exact ih h
  | case3 _ _ _ _ _ _ _ _ ih => exact ih h
  | case4 lo hi _ mid e' he hlow hhigh =>
    obtain rfl := Option.some.inj h
    exact ⟨Array.mem_of_getElem? he, Nat.not_lt.1 hlow, Nat.not_lt.1 hhigh⟩
  | case5 => cases h

theorem mem_of_find? {m : RangeMap} {c : Char} {e : Entry} (h : m.find? c = some e) :
    e ∈ m.entries ∧ e.low ≤ c.toNat ∧ c.toNat ≤ e.high :=
  mem_of_search h

/-- An entry between the ends of the search is found. -/
theorem search_eq_some {entries : Array Entry}
    (h : Ascending (entries.toList.map Entry.range)) {n i : Nat} {e : Entry}
    (he : entries[i]? = some e) (hn : e.low ≤ n ∧ n ≤ e.high) (lo hi : Nat) (hlo : lo ≤ i)
    (hhi : i < hi) (hsize : hi ≤ entries.size) : search entries n lo hi = some e := by
  have hrange {j : Nat} {e : Entry} (he : entries[j]? = some e) :
      (entries.toList.map Entry.range)[j]? = some e.range := by
    rw [List.getElem?_map, Array.getElem?_toList, he, Option.map_some]
  fun_induction search entries n lo hi with
  | case1 lo hi hlt mid hnone =>
    have := Array.getElem?_eq_none_iff.1 hnone
    omega
  | case2 lo hi hlt mid e' he' hlow ih =>
    exact ih hlo ((h.half (hrange he) hn (hrange he')).1 hlow) (by omega)
  | case3 lo hi hlt mid e' he' hlow hhigh ih =>
    exact ih ((h.half (hrange he) hn (hrange he')).2.1 hhigh) hhi hsize
  | case4 lo hi hlt mid e' he' hlow hhigh =>
    have himid := (h.half (hrange he) hn (hrange he')).2.2 (Nat.not_lt.1 hlow) (Nat.not_lt.1 hhigh)
    rw [← he', ← he, himid]
  | case5 lo hi hge => omega

/-- **The entry for a character in a map in ascending order.** -/
theorem find?_eq_some_iff {m : RangeMap} (h : Ascending (m.entries.toList.map Entry.range))
    (c : Char) (e : Entry) :
    m.find? c = some e ↔ e ∈ m.entries ∧ e.low ≤ c.toNat ∧ c.toNat ≤ e.high := by
  refine ⟨mem_of_find?, fun he => ?_⟩
  obtain ⟨i, hi, rfl⟩ := Array.mem_iff_getElem.1 he.1
  exact search_eq_some h (Array.getElem?_eq_getElem hi) he.2 0 _ (Nat.zero_le i) hi (Nat.le_refl _)

end RangeMap

/-! ## Code points as bits -/

def isCodePoint (n : Nat) : Bool := n < 0xD800 || (0xDFFF < n && n < 0x110000)

theorem toNat_ofNat_of_isCodePoint {n : Nat} (h : isCodePoint n = true) :
    (Char.ofNat n).toNat = n := by
  have hvalid : n.isValidChar := by
    simp only [isCodePoint, Bool.or_eq_true, Bool.and_eq_true, decide_eq_true_eq] at h
    unfold Nat.isValidChar
    omega
  rw [Char.ofNat, dif_pos hvalid]
  rfl

/-- The code points of a range, as bits. -/
def spanBits (r : Nat × Nat) : Nat := (1 <<< (r.2 + 1 - r.1) - 1) <<< r.1

/-- The code points of ranges, as bits. -/
def rowBits : List (Nat × Nat) → Nat
  | [] => 0
  | r :: row => spanBits r ||| rowBits row

def rowsBits : List (List (Nat × Nat)) → Nat
  | [] => 0
  | row :: rows => rowBits row ||| rowsBits rows

/-- Does one of the ranges hold the code point? -/
def InRanges (n : Nat) (ranges : List (Nat × Nat)) : Prop := ∃ r ∈ ranges, r.1 ≤ n ∧ n ≤ r.2

theorem testBit_spanBits (r : Nat × Nat) (n : Nat) :
    (spanBits r).testBit n = true ↔ r.1 ≤ n ∧ n ≤ r.2 := by
  rw [spanBits, Nat.testBit_shiftLeft, Nat.one_shiftLeft, Nat.testBit_two_pow_sub_one,
    Bool.and_eq_true, decide_eq_true_iff, decide_eq_true_iff]
  omega

theorem testBit_rowBits (row : List (Nat × Nat)) (n : Nat) :
    (rowBits row).testBit n = true ↔ InRanges n row := by
  induction row with
  | nil => simp [rowBits, InRanges]
  | cons r row ih =>
    rw [rowBits, Nat.testBit_or, Bool.or_eq_true, testBit_spanBits, ih]
    simp [InRanges]

theorem testBit_rowsBits (rows : List (List (Nat × Nat))) (n : Nat) :
    (rowsBits rows).testBit n = true ↔ InRanges n rows.flatten := by
  induction rows with
  | nil => simp [rowsBits, InRanges]
  | cons row rows ih =>
    rw [rowsBits, Nat.testBit_or, Bool.or_eq_true, testBit_rowBits, ih]
    simp only [InRanges, List.flatten_cons, List.mem_append, or_and_right, exists_or]

/-- The ranges that are taken from each item of a table. -/
theorem inRanges_flatMap {β : Type} (f : β → List (Nat × Nat)) (rows : List (List β)) (n : Nat) :
    InRanges n (rows.map fun row => row.flatMap f).flatten ↔
      ∃ item ∈ rows.flatten, InRanges n (f item) := by
  constructor
  · rintro ⟨r, hr, hn⟩
    obtain ⟨_, hmap, hr⟩ := List.mem_flatten.1 hr
    obtain ⟨row, hrow, rfl⟩ := List.mem_map.1 hmap
    obtain ⟨item, hitem, hr⟩ := List.mem_flatMap.1 hr
    exact ⟨item, List.mem_flatten.2 ⟨row, hrow, hitem⟩, r, hr, hn⟩
  · rintro ⟨item, hitem, r, hr, hn⟩
    obtain ⟨row, hrow, hitem⟩ := List.mem_flatten.1 hitem
    refine ⟨r, List.mem_flatten.2 ⟨_, List.mem_map_of_mem hrow, ?_⟩, hn⟩
    exact List.mem_flatMap.2 ⟨item, hitem, hr⟩

/-- Sets without a common bit have no common code point. -/
theorem not_mem_of_land_eq_zero {a b n : Nat} (h : a &&& b = 0) (hb : b.testBit n = true) :
    a.testBit n = false := by
  have hbit : (a &&& b).testBit n = false := by rw [h, Nat.zero_testBit]
  rwa [Nat.testBit_and, hb, Bool.and_true] at hbit

end LoginGate.Text
