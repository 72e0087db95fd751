import LoginGate.Proofs.Text.Composites
import Mathlib.Data.List.Chain

/-!
# Composed text stays composed

`composed` takes a text apart and puts its marks in order (`takenApart`), and then joins it
(`joined`).  What is joined from a text that is apart and in order comes apart into that text again
(`takenApart_joined`): after every character, what is joined so far comes apart into what was read
(`Recovers`).  A mark that is joined over others of lower classes goes back behind them.

A full stop is never joined, so each label of a composed name is composed by itself
(`composed_of_mem_pieces`).  ASCII text is composed (`composed_of_forall`).
-/

namespace LoginGate.Text

/-! ## Classes of ASCII characters -/

theorem low_combiningClasses : ∀ e ∈ combiningClasses.entries, decide (0x80 ≤ e.low) = true := by
  apply RangeMap.forall_mem_entries
  · repeat apply SpelledAs.cons
    exact .nil
  · decide +kernel

theorem combiningClass_of_lt {c : Char} (hc : c.toNat < 0x80) : combiningClass c = 0 := by
  have hnone : combiningClasses.find? c = none := by
    refine RangeMap.find?_eq_none fun e he => Or.inl ?_
    exact Nat.lt_of_lt_of_le hc (of_decide_eq_true (low_combiningClasses e he))
  have hclass : combiningClass = combiningClass := rfl
  conv at hclass => rhs; delta combiningClass
  rw [hclass]
  dsimp only
  rw [hnone]

/-! ## The order of marks -/

/-- Are the marks of a reversed text in the order of their classes? -/
def IsOrdered (reversed : List Char) : Prop :=
  reversed.IsChain fun d c => combiningClass d = 0 ∨ combiningClass c ≤ combiningClass d

/-- Characters put in front of a reversed text one by one, marks in the order of their classes. -/
def insertAll (s reversed : List Char) : List Char :=
  s.foldl (fun reversed c => insertMark c reversed) reversed

theorem insertAll_append (s t reversed : List Char) :
    insertAll (s ++ t) reversed = insertAll t (insertAll s reversed) :=
  List.foldl_append

theorem insertMark_eq_cons {c : Char} {reversed : List Char} (h : IsOrdered (c :: reversed)) :
    insertMark c reversed = c :: reversed := by
  cases reversed with
  | nil => rfl
  | cons d rest =>
    have hcd := (List.isChain_cons_cons.1 h).1
    rw [insertMark, if_neg]
    omega

theorem head?_insertMark (c : Char) (reversed : List Char) :
    (insertMark c reversed).head? = some c ∨ (insertMark c reversed).head? = reversed.head? := by
  cases reversed with
  | nil => exact Or.inl rfl
  | cons d rest =>
    rw [insertMark]
    split
    · exact Or.inr rfl
    · exact Or.inl rfl

theorem isOrdered_insertMark (c : Char) {reversed : List Char} (h : IsOrdered reversed) :
    IsOrdered (insertMark c reversed) := by
  induction reversed with
  | nil => exact List.isChain_singleton c
  | cons d rest ih =>
    rw [insertMark]
    split
    · rename_i hbehind
      refine (ih h.tail).cons fun e he => ?_
      rcases head?_insertMark c rest with hc | hrest
      · rw [hc] at he
        obtain rfl := Option.some.inj he
        omega
      · rw [hrest] at he
        exact (List.isChain_cons.1 h).1 e he
    · refine List.isChain_cons_cons.2 ⟨?_, h⟩
      omega

theorem isOrdered_insertAll (s : List Char) {reversed : List Char} (h : IsOrdered reversed) :
    IsOrdered (insertAll s reversed) := by
  induction s generalizing reversed with
  | nil => exact h
  | cons c s ih => exact ih (isOrdered_insertMark c h)

/-- What is in order stays as it is. -/
theorem insertAll_eq {s reversed : List Char} (h : IsOrdered (s.reverse ++ reversed)) :
    insertAll s reversed = s.reverse ++ reversed := by
  induction s generalizing reversed with
  | nil => rfl
  | cons c s ih =>
    rw [List.reverse_cons, List.append_assoc, List.singleton_append] at h ⊢
    show insertAll s (insertMark c reversed) = _
    rw [insertMark_eq_cons h.right_of_append, ih h]

/-- Marks of two classes can be put in either way round. -/
theorem insertMark_comm {c d : Char} (hc : combiningClass c ≠ 0) (hd : combiningClass d ≠ 0)
    (hne : combiningClass c ≠ combiningClass d) (reversed : List Char) :
    insertMark c (insertMark d reversed) = insertMark d (insertMark c reversed) := by
  induction reversed with
  | nil =>
    simp only [insertMark]
    split <;> split <;> first | rfl | omega
  | cons e rest ih =>
    simp only [insertMark]
    split <;> split <;> simp only [insertMark] <;> split <;> try split
    all_goals first | rfl | omega | rw [ih]

/-- A mark can be put in behind marks of other classes, or before them. -/
theorem insertAll_insertMark {c : Char} {marks : List Char} (reversed : List Char)
    (h : ∀ m ∈ marks, combiningClass m ≠ 0 ∧ combiningClass m < combiningClass c) :
    insertAll marks (insertMark c reversed) = insertMark c (insertAll marks reversed) := by
  induction marks generalizing reversed with
  | nil => rfl
  | cons m marks ih =>
    obtain ⟨hm, hlt⟩ := h m List.mem_cons_self
    show insertAll marks (insertMark m (insertMark c reversed)) = _
    rw [insertMark_comm hm (by omega) (by omega), ih _ fun n hn => h n (List.mem_cons_of_mem m hn)]
    rfl

theorem mem_insertMark {x c : Char} {reversed : List Char} :
    x ∈ insertMark c reversed ↔ x = c ∨ x ∈ reversed := by
  induction reversed with
  | nil => simp [insertMark]
  | cons d rest ih =>
    rw [insertMark]
    split
    · rw [List.mem_cons, ih, List.mem_cons]
      exact or_left_comm
    · exact List.mem_cons

theorem mem_insertAll {x : Char} {s reversed : List Char} :
    x ∈ insertAll s reversed ↔ x ∈ s ∨ x ∈ reversed := by
  induction s generalizing reversed with
  | nil => simp [insertAll]
  | cons c s ih =>
    show x ∈ insertAll s (insertMark c reversed) ↔ _
    rw [ih, mem_insertMark, List.mem_cons, or_assoc, or_left_comm]

/-! ## Taking apart and joining -/

/-- A text with its composites taken apart, and its marks in order. -/
def takenApart (s : List Char) : List Char := orderMarks (s.flatMap (expand 4))

def joined (s : List Char) : List Char := (s.foldl Joining.add {}).flush.reverse

theorem composed_eq (s : List Char) : composed s = joined (takenApart s) := rfl

theorem takenApart_eq (s : List Char) :
    takenApart s = (insertAll (s.flatMap (expand 4)) []).reverse := rfl

theorem isOrdered_takenApart (s : List Char) : IsOrdered (takenApart s).reverse := by
  rw [takenApart_eq, List.reverse_reverse]
  exact isOrdered_insertAll _ .nil

theorem mem_takenApart {x : Char} {s : List Char} :
    x ∈ takenApart s ↔ ∃ c ∈ s, x ∈ expand 4 c := by
  rw [takenApart_eq, List.mem_reverse, mem_insertAll, List.mem_flatMap]
  simp

theorem split?_of_mem_takenApart {x : Char} {s : List Char} (hx : x ∈ takenApart s) :
    split? x = none := by
  obtain ⟨c, -, hx⟩ := mem_takenApart.1 hx
  exact split?_of_mem_expand hx

/-- What is joined so far comes apart into what was read, reversed. -/
structure Recovers (j : Joining) (read : List Char) : Prop where
  text : insertAll (j.flush.reverse.flatMap (expand 4)) [] = read
  baseless : j.base = none → j.marks = []
  sorted : j.marks.Pairwise fun d c => combiningClass c ≤ combiningClass d
  marks : ∀ m ∈ j.marks, combiningClass m ≠ 0 ∧ split? m = none ∧
    ∃ last, read.head? = some last ∧ combiningClass m ≤ combiningClass last

theorem recovers_start : Recovers {} [] := ⟨rfl, fun _ => rfl, .nil, by simp⟩

variable {j : Joining} {read : List Char} {c : Char}

theorem Joining.flush_append (hj : j.base = none → j.marks = []) (c : Char) :
    (j.append c).flush = c :: j.flush := by
  unfold Joining.append
  split
  · rfl
  · split
    · rename_i hbase
      have hnone := Option.isNone_iff_eq_none.1 hbase
      simp [Joining.flush, hnone, hj hnone]
    · rfl

/-- The class of the next mark is no lower than those of the marks behind the base. -/
theorem Recovers.le_next (h : Recovers j read) (hordered : IsOrdered (c :: read))
    (hc : combiningClass c ≠ 0) : ∀ m ∈ j.marks, combiningClass m ≤ combiningClass c := by
  intro m hm
  obtain ⟨-, -, last, hlast, hle⟩ := h.marks m hm
  have hnext := (List.isChain_cons.1 hordered).1 last hlast
  omega

theorem Recovers.append (h : Recovers j read) (hc : split? c = none)
    (hordered : IsOrdered (c :: read)) : Recovers (j.append c) (c :: read) := by
  have htext : insertAll ((j.append c).flush.reverse.flatMap (expand 4)) [] = c :: read := by
    rw [Joining.flush_append h.baseless, List.reverse_cons, List.flatMap_append, insertAll_append,
      h.text, List.flatMap_singleton, expand_of_none hc]
    exact insertMark_eq_cons hordered
  by_cases hclass : combiningClass c = 0
  · have happend : j.append c = ⟨j.flush, some c, []⟩ := by
      rw [Joining.append, if_pos hclass]
    rw [happend] at htext ⊢
    exact ⟨htext, fun _ => rfl, .nil, by simp⟩
  · have hle := h.le_next hordered hclass
    cases hbase : j.base with
    | none =>
      have happend : j.append c = { j with finished := c :: j.finished } := by
        rw [Joining.append, if_neg hclass, if_pos (by rw [hbase]; rfl)]
      rw [happend] at htext ⊢
      refine ⟨htext, h.baseless, h.sorted, fun m hm => ?_⟩
      rw [h.baseless hbase] at hm
      cases hm
    | some b =>
      have happend : j.append c = { j with marks := c :: j.marks } := by
        rw [Joining.append, if_neg hclass, if_neg (by rw [hbase]; simp)]
      rw [happend] at htext ⊢
      refine ⟨htext, fun hnone => ?_, List.pairwise_cons.2 ⟨hle, h.sorted⟩, fun m hm => ?_⟩
      · rw [hbase] at hnone
        cases hnone
      · rcases List.mem_cons.1 hm with rfl | hm
        · exact ⟨hclass, hc, m, rfl, Nat.le_refl _⟩
        · exact ⟨(h.marks m hm).1, (h.marks m hm).2.1, c, rfl, hle m hm⟩

/-- The marks over which a character is joined are of lower classes. -/
theorem Recovers.lt_of_not_blocked (h : Recovers j read)
    (hblocked : j.isBlocked (combiningClass c) = false) :
    ∀ m ∈ j.marks, combiningClass m < combiningClass c := by
  intro m hm
  unfold Joining.isBlocked at hblocked
  split at hblocked
  · rename_i hnone
    rw [hnone] at hm
    cases hm
  · rename_i mark rest hmarks
    have hmark := of_decide_eq_false hblocked
    have hsorted := h.sorted
    rw [hmarks] at hm hsorted
    rcases List.mem_cons.1 hm with rfl | hm
    · omega
    · have := (List.pairwise_cons.1 hsorted).1 m hm
      omega

theorem Recovers.join (h : Recovers j read) (hordered : IsOrdered (c :: read)) {b d : Char}
    (hbase : j.base = some b) (hblocked : j.isBlocked (combiningClass c) = false)
    (hjoin : join? b c = some d) : Recovers { j with base := some d } (c :: read) := by
  have hlt := h.lt_of_not_blocked hblocked
  have hwhole : j.marks.reverse.flatMap (expand 4) = j.marks.reverse := by
    rw [List.flatMap_congr (g := fun m => [m]), List.flatMap_singleton']
    intro m hm
    exact expand_of_none (h.marks m (List.mem_reverse.1 hm)).2.1 4
  have hread : insertAll j.marks.reverse
      (insertAll (j.finished.reverse.flatMap (expand 4) ++ expand 4 b) []) = read := by
    rw [← insertAll_append, ← h.text, Joining.flush, hbase]
    simp [hwhole]
  refine ⟨?_, fun hnone => ?_, h.sorted, fun m hm => ?_⟩
  · calc insertAll (({ j with base := some d } : Joining).flush.reverse.flatMap (expand 4)) []
      _ = insertAll (j.finished.reverse.flatMap (expand 4) ++ expand 4 b ++ [c] ++
            j.marks.reverse) [] := by
          simp [Joining.flush, hwhole, expand_of_split? (split?_of_join? hjoin)]
      _ = insertAll j.marks.reverse (insertMark c
            (insertAll (j.finished.reverse.flatMap (expand 4) ++ expand 4 b) [])) := by
          rw [insertAll_append, insertAll_append]
          rfl
      _ = insertMark c read := by
          rw [insertAll_insertMark _ fun m hm => ?_, hread]
          exact ⟨(h.marks m (List.mem_reverse.1 hm)).1, hlt m (List.mem_reverse.1 hm)⟩
      _ = c :: read := insertMark_eq_cons hordered
  · cases hnone
  · exact ⟨(h.marks m hm).1, (h.marks m hm).2.1, c, rfl, Nat.le_of_lt (hlt m hm)⟩

theorem Recovers.add (h : Recovers j read) (hc : split? c = none)
    (hordered : IsOrdered (c :: read)) : Recovers (j.add c) (c :: read) := by
  unfold Joining.add
  split
  · rename_i b hbase
    cases hblocked : j.isBlocked (combiningClass c) with
    | true =>
      rw [if_pos rfl]
      exact h.append hc hordered
    | false =>
      rw [if_neg Bool.false_ne_true]
      cases hjoin : join? b c with
      | none =>
        dsimp only
        exact h.append hc hordered
      | some d =>
        dsimp only
        exact h.join hordered hbase hblocked hjoin
  · exact h.append hc hordered

theorem Recovers.run {s : List Char} (h : Recovers j read) (hs : ∀ c ∈ s, split? c = none)
    (hordered : IsOrdered (s.reverse ++ read)) :
    Recovers (s.foldl Joining.add j) (s.reverse ++ read) := by
  induction s generalizing j read with
  | nil => exact h
  | cons c s ih =>
    rw [List.reverse_cons, List.append_assoc, List.singleton_append] at hordered ⊢
    exact ih (h.add (hs c List.mem_cons_self) hordered.right_of_append)
      (fun d hd => hs d (List.mem_cons_of_mem c hd)) hordered

/-- **What is joined comes apart again.** -/
theorem takenApart_joined {s : List Char} (hs : ∀ c ∈ s, split? c = none)
    (hordered : IsOrdered s.reverse) : takenApart (joined s) = s := by
  have h := (recovers_start.run hs (by rwa [List.append_nil])).text
  rw [List.append_nil] at h
  rw [takenApart_eq, joined, h, List.reverse_reverse]

/-! ## Text cut at a character that is never joined -/

/-- An ASCII character becomes the new base. -/
theorem Joining.add_of_lt (j : Joining) (hc : c.toNat < 0x80) :
    j.add c = ⟨j.flush, some c, []⟩ := by
  have happend : j.append c = ⟨j.flush, some c, []⟩ := by
    rw [Joining.append, if_pos (combiningClass_of_lt hc)]
  rw [Joining.add]
  split
  · rw [join?_of_lt hc]
    dsimp only
    rw [happend, ite_self]
  · exact happend

/-- Behind a base that nothing is joined to, text is joined as at the start; `rest` is what is in
front of it. -/
inductive Beside (rest : List Char) : Joining → Joining → Prop
  | start {finished before : List Char} {base : Char} :
      base.toNat ≤ 0x3A → rest = base :: before →
      Beside rest ⟨finished, none, []⟩ ⟨before, some base, finished⟩
  | same {finished marks : List Char} {base : Char} :
      Beside rest ⟨finished, some base, marks⟩ ⟨finished ++ rest, some base, marks⟩

variable {rest : List Char} {k : Joining}

theorem Beside.flush (h : Beside rest k j) : j.flush = k.flush ++ rest := by
  cases h with
  | start _ hrest => rw [hrest]; rfl
  | same => simp [Joining.flush]

theorem Beside.add (h : Beside rest k j) (c : Char) : Beside rest (k.add c) (j.add c) := by
  have hflush := h.flush
  cases h with
  | @start finished before base hbase hrest =>
    have hadd : (⟨before, some base, finished⟩ : Joining).add c =
        (⟨before, some base, finished⟩ : Joining).append c := by
      rw [Joining.add]
      dsimp only
      rw [join?_of_le hbase]
      dsimp only
      rw [ite_self]
    rw [hadd]
    show Beside rest ((⟨finished, none, []⟩ : Joining).append c) _
    unfold Joining.append
    by_cases hclass : combiningClass c = 0
    · rw [if_pos hclass, if_pos hclass, hflush]
      exact .same
    · rw [if_neg hclass, if_neg hclass]
      exact .start hbase hrest
  | @same finished marks base =>
    have happend : Beside rest ((⟨finished, some base, marks⟩ : Joining).append c)
        ((⟨finished ++ rest, some base, marks⟩ : Joining).append c) := by
      unfold Joining.append
      by_cases hclass : combiningClass c = 0
      · rw [if_pos hclass, if_pos hclass, hflush]
        exact .same
      · rw [if_neg hclass, if_neg hclass]
        exact .same
    unfold Joining.add
    dsimp only
    have hblocked : (⟨finished ++ rest, some base, marks⟩ : Joining).isBlocked =
        (⟨finished, some base, marks⟩ : Joining).isBlocked := rfl
    rw [hblocked]
    split
    · exact happend
    · cases join? base c with
      | none => exact happend
      | some d => exact .same

theorem Beside.run (h : Beside rest k j) (s : List Char) :
    Beside rest (s.foldl Joining.add k) (s.foldl Joining.add j) := by
  induction s generalizing k j with
  | nil => exact h
  | cons c s ih => exact ih (h.add c)

/-- The texts before and behind a full stop are joined by themselves. -/
theorem joined_append_cons (s t : List Char) :
    joined (s ++ '.' :: t) = joined s ++ '.' :: joined t := by
  have hdot : (s.foldl Joining.add {}).add '.' = ⟨(s.foldl Joining.add {}).flush, some '.', []⟩ :=
    Joining.add_of_lt _ (by decide)
  have hbeside : Beside ('.' :: (s.foldl Joining.add {}).flush) {}
      ⟨(s.foldl Joining.add {}).flush, some '.', []⟩ := .start (by decide) rfl
  rw [joined, List.foldl_append, List.foldl_cons, hdot, (hbeside.run t).flush]
  simp [joined]

theorem Joining.mem_flush_append {d : Char} (h : d ∈ (j.append c).flush) : d = c ∨ d ∈ j.flush := by
  unfold Joining.append at h
  split at h
  · exact List.mem_cons.1 h
  · split at h
    · rename_i hbase
      rw [Joining.flush, Option.isNone_iff_eq_none.1 hbase] at h ⊢
      rcases List.mem_append.1 h with hm | hm
      · exact Or.inr (List.mem_append_left _ hm)
      · exact (List.mem_cons.1 hm).imp_right (List.mem_append_right _)
    · exact List.mem_cons.1 h

/-- What joining keeps holds of everything that is joined. -/
theorem forall_mem_joined {p : Char → Prop} (hp : ∀ a b d, join? a b = some d → p a → p b → p d)
    {s : List Char} (hs : ∀ c ∈ s, p c) : ∀ c ∈ joined s, p c := by
  have hadd {j : Joining} {c : Char} (hj : ∀ d ∈ j.flush, p d) (hc : p c) :
      ∀ d ∈ (j.add c).flush, p d := by
    have happend : ∀ d ∈ (j.append c).flush, p d := fun d hd =>
      (Joining.mem_flush_append hd).elim (fun heq => heq ▸ hc) (hj d)
    unfold Joining.add
    split
    · rename_i b hbase
      split
      · exact happend
      · cases hjoin : join? b c with
        | none => exact happend
        | some d =>
          rw [Joining.flush, hbase] at hj
          intro x hx
          rcases List.mem_append.1 hx with hx | hx
          · exact hj x (List.mem_append_left _ hx)
          · rcases List.mem_cons.1 hx with rfl | hx
            · exact hp b c _ hjoin (hj b (by simp)) hc
            · exact hj x (List.mem_append_right _ (List.mem_cons_of_mem b hx))
    · exact happend
  have hrun {j : Joining} (hj : ∀ d ∈ j.flush, p d) :
      ∀ d ∈ (s.foldl Joining.add j).flush, p d := by
    induction s generalizing j with
    | nil => exact hj
    | cons c s ih =>
      exact ih (fun d hd => hs d (List.mem_cons_of_mem c hd)) (hadd hj (hs c List.mem_cons_self))
  intro c hc
  exact hrun (by simp [Joining.flush]) c (List.mem_reverse.1 hc)

theorem pieces_joined (s : List Char) : pieces '.' (joined s) = (pieces '.' s).map joined := by
  obtain hs | ⟨before, after, hs, -⟩ := eq_cutLast? '.' s
  · have hnone : '.' ∉ joined s := by
      refine fun hm =>
        forall_mem_joined (p := (· ≠ '.')) ?_ (fun c hc heq => hs (heq ▸ hc)) _ hm rfl
      rintro a b _ hjoin - - rfl
      have hsplit := split?_of_join? hjoin
      rw [split?_of_lt (by decide)] at hsplit
      cases hsplit
    rw [pieces_of_not_mem hs, pieces_of_not_mem hnone, List.map_singleton]
  · have hlength : s.length = before.length + (after.length + 1) := by
      rw [hs, List.length_append, List.length_cons]
    rw [hs, joined_append_cons, pieces_append_cons, pieces_append_cons, List.map_append,
      pieces_joined before, pieces_joined after]
termination_by s.length
decreasing_by all_goals omega

theorem exists_append_of_mem_join (sep : List Char) {p : List Char} {ps : List (List Char)}
    (h : p ∈ ps) : ∃ l r, join sep ps = l ++ p ++ r := by
  induction ps with
  | nil => cases h
  | cons q ps ih =>
    rcases List.mem_cons.1 h with rfl | h
    · obtain ⟨r, hr⟩ := exists_join_cons sep p ps
      exact ⟨[], r, hr⟩
    · obtain ⟨l, r, hlr⟩ := ih h
      refine ⟨q ++ sep ++ l, r, ?_⟩
      rw [join_cons_of_ne_nil _ _ (List.ne_nil_of_mem h), hlr]
      simp only [List.append_assoc]

/-- A piece stands in the text. -/
theorem exists_append_of_mem_pieces {sep : Char} {s p : List Char} (h : p ∈ pieces sep s) :
    ∃ l r, s = l ++ p ++ r := by
  obtain ⟨l, r, hlr⟩ := exists_append_of_mem_join [sep] h
  exact ⟨l, r, by rw [← hlr, join_pieces]⟩

/-- **The labels of composed text are composed.** -/
theorem composed_of_mem_pieces {s label : List Char} (h : label ∈ pieces '.' (composed s)) :
    composed label = label := by
  rw [composed_eq, pieces_joined] at h
  obtain ⟨piece, hpiece, rfl⟩ := List.mem_map.1 h
  obtain ⟨l, r, hs⟩ := exists_append_of_mem_pieces hpiece
  have hordered := isOrdered_takenApart s
  rw [hs, List.reverse_append, List.reverse_append] at hordered
  rw [composed_eq, takenApart_joined _ hordered.right_of_append.left_of_append]
  intro c hc
  exact split?_of_mem_takenApart (mem_of_mem_pieces hpiece hc)

/-- What taking apart and joining keep holds of composed text. -/
theorem forall_mem_composed {p : Char → Prop}
    (hsplit : ∀ c a b, split? c = some (a, b) → p c → p a ∧ p b)
    (hjoin : ∀ a b d, join? a b = some d → p a → p b → p d) {s : List Char} (hs : ∀ c ∈ s, p c) :
    ∀ c ∈ composed s, p c := by
  have hexpand (n : Nat) (c : Char) (hc : p c) : ∀ x ∈ expand n c, p x := by
    induction n generalizing c with
    | zero =>
      intro x hx
      rw [List.mem_singleton.1 hx]
      exact hc
    | succ n ih =>
      cases hparts : split? c with
      | none =>
        rw [expand_of_none hparts]
        intro x hx
        rw [List.mem_singleton.1 hx]
        exact hc
      | some parts =>
        obtain ⟨ha, hb⟩ := hsplit c parts.1 parts.2 hparts hc
        rw [expand_of_some hparts]
        intro x hx
        rcases List.mem_append.1 hx with hx | hx
        · exact ih parts.1 ha x hx
        · rw [List.mem_singleton.1 hx]
          exact hb
  refine forall_mem_joined hjoin fun x hx => ?_
  obtain ⟨c, hc, hx⟩ := mem_takenApart.1 hx
  exact hexpand 4 c (hs c hc) x hx

/-! ## ASCII text -/

/-- **Text of ASCII characters is composed.** -/
theorem composed_of_forall {s : List Char} (h : ∀ c ∈ s, c.toNat < 0x80) : composed s = s := by
  have hordered (reversed : List Char) (hr : ∀ c ∈ reversed, c.toNat < 0x80) :
      IsOrdered reversed := by
    induction reversed with
    | nil => exact .nil
    | cons c rest ih =>
      refine (ih fun d hd => hr d (List.mem_cons_of_mem c hd)).cons fun d _ => Or.inl ?_
      exact combiningClass_of_lt (hr c List.mem_cons_self)
  have happart : takenApart s = s := by
    have hwhole : s.flatMap (expand 4) = s := by
      rw [List.flatMap_congr (g := fun c => [c]), List.flatMap_singleton']
      exact fun c hc => expand_of_none (split?_of_lt (h c hc)) 4
    rw [takenApart_eq, hwhole, insertAll_eq, List.append_nil, List.reverse_reverse]
    rw [List.append_nil]
    exact hordered _ fun c hc => h c (List.mem_reverse.1 hc)
  have hfold (j : Joining) : (s.foldl Joining.add j).flush = s.reverse ++ j.flush := by
    clear happart
    induction s generalizing j with
    | nil => rfl
    | cons c s ih =>
      rw [List.foldl_cons, Joining.add_of_lt j (h c List.mem_cons_self),
        ih (fun d hd => h d (List.mem_cons_of_mem c hd)), List.reverse_cons, List.append_assoc]
      rfl
  rw [composed_eq, happart, joined, hfold]
  simp [Joining.flush]

end LoginGate.Text
