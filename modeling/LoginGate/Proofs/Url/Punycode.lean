import LoginGate.Proofs.Text.RangeTables
import LoginGate.Url.Punycode
import Mathlib.Data.List.Basic
import Mathlib.Tactic.Ring

/-!
# Written labels are read back

The writer goes through the code points of a label in ascending order, and through the label once
for each; the number that is due counts the places that the reader would pass by.  So at every point
the reader, given what is written so far, has put in just the characters that the writer has passed
(`Follows`), and what is due leads it to the place where the writer stands:

    r.position + w.delta =
      (n - r.codePoint) * (w.written + 1) + (characters put in before the place)

A character that is written is put in there (`Follows.write`), a whole label is read back
(`decode?_encode`), and what is written of it are its ASCII characters, a hyphen and digits
(`mem_encode`).
-/

namespace LoginGate.Url.Punycode

open LoginGate.Text

/-! ## Digits -/

theorem threshold_pos (place bias : Nat) : 1 ≤ threshold place bias := by
  unfold threshold
  split
  · omega
  · split <;> omega

theorem threshold_le (place bias : Nat) : threshold place bias ≤ 26 := by
  unfold threshold
  split
  · omega
  · split <;> omega

theorem value?_digit {n : Nat} (h : n < 36) : value? (digit n) = some n := by
  have hall : ∀ m < 36, value? (digit m) = some m := by decide
  exact hall n h

/-- The characters that numbers are written with. -/
def IsDigit (c : Char) : Prop := ∃ n < 36, c = digit n

theorem isDigit_of_mem_digits {bias place n : Nat} : ∀ c ∈ digits bias place n, IsDigit c := by
  fun_induction digits bias place n with
  | case1 place n t hlt =>
    intro c hc
    have hle := threshold_le place bias
    obtain rfl := List.mem_singleton.1 hc
    exact ⟨n, by omega, rfl⟩
  | case2 place n t hge ih =>
    intro c hc
    have hpos := threshold_pos place bias
    have hle := threshold_le place bias
    rcases List.mem_cons.1 hc with rfl | hc
    · have hmod : (n - t) % (36 - t) < 36 - t := Nat.mod_lt _ (by omega)
      exact ⟨_, by omega, rfl⟩
    · exact ih c hc

/-- The digits of a number complete it, whatever follows them. -/
theorem foldlM_digits (bias place n : Nat) (rest : List Char) :
    ∀ r : Reading, r.bias = bias → r.place = place →
      (digits bias place n ++ rest).foldlM Reading.step? r =
        (r.finish? (r.index + n * r.weight)).bind fun next => rest.foldlM Reading.step? next := by
  fun_induction digits bias place n with
  | case1 place n t hlt =>
    rintro r rfl rfl
    have hle := threshold_le r.place r.bias
    have hstep : r.step? (digit n) = r.finish? (r.index + n * r.weight) := by
      unfold Reading.step?
      rw [value?_digit (by omega)]
      exact if_pos hlt
    rw [List.singleton_append, List.foldlM_cons, hstep]
    rfl
  | case2 place n t hge ih =>
    rintro r rfl rfl
    have hpos := threshold_pos r.place r.bias
    have hle := threshold_le r.place r.bias
    have hmod : (n - t) % (36 - t) < 36 - t := Nat.mod_lt _ (by omega)
    have hstep : r.step? (digit (t + (n - t) % (36 - t))) = some { r with
        index := r.index + (t + (n - t) % (36 - t)) * r.weight
        weight := r.weight * (36 - t)
        place := r.place + 36 } := by
      unfold Reading.step?
      rw [value?_digit (by omega)]
      exact if_neg (by omega)
    have hvalue : (t + (n - t) % (36 - t)) * r.weight +
        (n - t) / (36 - t) * (r.weight * (36 - t)) = n * r.weight := by
      have hdiv : (n - t) % (36 - t) + (n - t) / (36 - t) * (36 - t) = n - t :=
        Nat.mod_add_div' _ _
      have hsum : t + (n - t) % (36 - t) + (n - t) / (36 - t) * (36 - t) = n := by omega
      calc _ = (t + (n - t) % (36 - t) + (n - t) / (36 - t) * (36 - t)) * r.weight := by ring
        _ = n * r.weight := by rw [hsum]
    have hrest := ih { r with
        index := r.index + (t + (n - t) % (36 - t)) * r.weight
        weight := r.weight * (36 - t)
        place := r.place + 36 } rfl rfl
    rw [List.cons_append, List.foldlM_cons, hstep]
    refine hrest.trans ?_
    dsimp only
    rw [Nat.add_assoc, hvalue]
    rfl

/-! ## Writing and reading side by side -/

/-- The characters that are put in once the code points below `n` are written, and the `n`s in
`before`. -/
def putIn (n : Nat) (before after : List Char) : List Char :=
  before.filter (fun c => c.toNat ≤ n) ++ after.filter (fun c => c.toNat < n)

/-- Does the reader have what the writer has written, which stands between `before` and `after`
among the characters with code point `n`? -/
structure Follows (n : Nat) (before after : List Char) (w : Writing) (r : Reading) : Prop where
  output : r.output = putIn n before after
  written : w.written = r.output.length
  complete : r.index = r.position ∧ r.weight = 1 ∧ r.place = 36
  bias : r.bias = w.bias
  basic : w.basic ≤ w.written
  first : (w.written == w.basic) = (r.position == 0)
  codePoint : r.codePoint ≤ n
  due : r.position + w.delta =
    (n - r.codePoint) * (w.written + 1) + (before.filter fun c => c.toNat ≤ n).length

/-- What the reader does with what is written: it starts with the basic characters, and the writer
with `lead`. -/
def Reads (lead basic : List Char) (w : Writing) (r : Reading) : Prop :=
  ∃ tail, w.output.reverse = lead ++ tail ∧ (∀ c ∈ tail, IsDigit c) ∧
    tail.foldlM Reading.step? { output := basic } = some r

variable {n : Nat} {before after lead basic : List Char} {c : Char} {w : Writing} {r : Reading}

theorem Follows.pass_lower (h : Follows n before (c :: after) w r) (hc : c.toNat < n) :
    Follows n (before ++ [c]) after (w.step n c) r := by
  have hstep : w.step n c = { w with delta := w.delta + 1 } := if_pos hc
  have hle : c.toNat ≤ n := Nat.le_of_lt hc
  rw [hstep]
  refine ⟨?_, h.written, h.complete, h.bias, h.basic, h.first, h.codePoint, ?_⟩
  · rw [h.output]
    simp [putIn, hc, hle]
  · have hdue := h.due
    simp [hle]
    omega

theorem Follows.pass_higher (h : Follows n before (c :: after) w r) (hc : n < c.toNat) :
    Follows n (before ++ [c]) after (w.step n c) r := by
  have hstep : w.step n c = w := by
    unfold Writing.step
    rw [if_neg (by omega), if_neg (by omega)]
  have hlt : ¬ c.toNat < n := by omega
  have hle : ¬ c.toNat ≤ n := by omega
  rw [hstep]
  refine ⟨?_, h.written, h.complete, h.bias, h.basic, h.first, h.codePoint, ?_⟩
  · rw [h.output]
    simp [putIn, hlt, hle]
  · have hdue := h.due
    simpa [hle] using hdue

section

variable (h : Follows n before (c :: after) w r) (hc : c.toNat = n)

include h hc

/-- The place where the writer stands, in what the reader has put in. -/
theorem Follows.output_split : r.output = (before.filter fun c => c.toNat ≤ n) ++
    after.filter fun c => c.toNat < n := by
  rw [h.output, putIn, List.filter_cons_of_neg (by simp [hc])]

/-- The number that is due counts the code points to `n`, and in the last one the characters before
the place. -/
theorem Follows.due_div_mod :
    (r.index + w.delta * r.weight) / (r.output.length + 1) = n - r.codePoint ∧
      (r.index + w.delta * r.weight) % (r.output.length + 1) =
        (before.filter fun c => c.toNat ≤ n).length := by
  obtain ⟨hindex, hweight, -⟩ := h.complete
  have hplace : (before.filter fun c => c.toNat ≤ n).length < r.output.length + 1 := by
    rw [h.output_split hc, List.length_append]
    omega
  have hdue : r.index + w.delta * r.weight = (before.filter fun c => c.toNat ≤ n).length +
      (r.output.length + 1) * (n - r.codePoint) := by
    rw [hindex, hweight, Nat.mul_one, h.due, h.written, Nat.mul_comm, Nat.add_comm]
  rw [hdue, Nat.add_mul_div_left _ _ (Nat.succ_pos _), Nat.div_eq_of_lt hplace, Nat.zero_add,
    Nat.add_mul_mod_self_left, Nat.mod_eq_of_lt hplace]
  exact ⟨rfl, rfl⟩

/-- The number that is due puts the character in where the writer stands. -/
theorem Follows.finish?_eq : r.finish? (r.index + w.delta * r.weight) = some {
    output := (before.filter fun c => c.toNat ≤ n) ++ c :: after.filter fun c => c.toNat < n
    codePoint := n
    position := (before.filter fun c => c.toNat ≤ n).length + 1
    bias := adapt w.delta (w.written + 1) (w.written == w.basic)
    index := (before.filter fun c => c.toNat ≤ n).length + 1 } := by
  obtain ⟨hdiv, hmod⟩ := h.due_div_mod hc
  obtain ⟨hindex, hweight, -⟩ := h.complete
  have hcode : r.codePoint + (n - r.codePoint) = n := Nat.add_sub_cancel' h.codePoint
  have hvalid : n < 0xD800 ∨ (0xDFFF < n ∧ n ≤ 0x10FFFF) := by
    have : c.toNat < 0xD800 ∨ (0xDFFF < c.toNat ∧ c.toNat < 0x110000) := c.valid
    omega
  have hchar : Char.ofNat n = c := by rw [← hc, Char.ofNat_toNat]
  have hpassed : r.index + w.delta * r.weight - r.position = w.delta := by
    rw [hindex, hweight, Nat.mul_one, Nat.add_sub_cancel_left]
  unfold Reading.finish?
  dsimp only
  rw [hdiv, hmod, hcode, if_pos hvalid, hchar, hpassed, h.first, h.written, h.output_split hc,
    List.take_left' rfl, List.drop_left' rfl]

theorem Follows.write : ∃ next, r.finish? (r.index + w.delta * r.weight) = some next ∧
    Follows n (before ++ [c]) after (w.step n c) next := by
  have hlength := h.written
  rw [h.output_split hc, List.length_append] at hlength
  have hbasic := h.basic
  have hstep : w.step n c = { w with
      delta := 0
      bias := adapt w.delta (w.written + 1) (w.written == w.basic)
      written := w.written + 1
      output := (digits w.bias 36 w.delta).reverse ++ w.output } := by
    unfold Writing.step
    rw [if_neg (by omega), if_pos hc]
  refine ⟨_, h.finish?_eq hc, ?_⟩
  rw [hstep]
  refine ⟨?_, ?_, ⟨rfl, rfl, rfl⟩, rfl, Nat.le_succ_of_le hbasic, ?_, Nat.le_refl n, ?_⟩
  · simp [putIn, hc]
  · simp [hlength]
    omega
  · simp
    omega
  · simp [hc]

end

/-- One character of the label is written and read. -/
theorem Follows.step (h : Follows n before (c :: after) w r) (hr : Reads lead basic w r) :
    ∃ next, Follows n (before ++ [c]) after (w.step n c) next ∧
      Reads lead basic (w.step n c) next := by
  rcases Nat.lt_trichotomy c.toNat n with hc | hc | hc
  · refine ⟨r, h.pass_lower hc, ?_⟩
    rw [show w.step n c = { w with delta := w.delta + 1 } from if_pos hc]
    exact hr
  · obtain ⟨next, hnext, hfollows⟩ := h.write hc
    obtain ⟨tail, houtput, htail, hread⟩ := hr
    refine ⟨next, hfollows, tail ++ digits w.bias 36 w.delta, ?_, ?_, ?_⟩
    · unfold Writing.step
      rw [if_neg (by omega), if_pos hc]
      show ((digits w.bias 36 w.delta).reverse ++ w.output).reverse = _
      rw [List.reverse_append, List.reverse_reverse, houtput, List.append_assoc]
    · intro d hd
      exact (List.mem_append.1 hd).elim (htail d) (isDigit_of_mem_digits d)
    · have hdigits := foldlM_digits w.bias 36 w.delta [] r h.bias h.complete.2.2
      rw [List.append_nil] at hdigits
      rw [List.foldlM_append, hread]
      refine hdigits.trans ?_
      rw [hnext]
      rfl
  · refine ⟨r, h.pass_higher hc, ?_⟩
    have hstep : w.step n c = w := by
      unfold Writing.step
      rw [if_neg (by omega), if_neg (by omega)]
    rw [hstep]
    exact hr

/-- The rest of the label is written and read. -/
theorem Follows.run (h : Follows n before after w r) (hr : Reads lead basic w r) :
    ∃ next, Follows n (before ++ after) [] (after.foldl (Writing.step n) w) next ∧
      Reads lead basic (after.foldl (Writing.step n) w) next := by
  induction after generalizing before w r with
  | nil => exact ⟨r, by rwa [List.append_nil], hr⟩
  | cons c after ih =>
    obtain ⟨next, hnext, hread⟩ := h.step hr
    rw [List.append_cons, List.foldl_cons]
    exact ih hnext hread

/-! ## Code points in ascending order -/

/-- Is everything below the code point `m` written and read? -/
structure Ready (label : List Char) (m : Nat) (w : Writing) (r : Reading) : Prop where
  output : r.output = label.filter (fun c => c.toNat < m)
  written : w.written = r.output.length
  complete : r.index = r.position ∧ r.weight = 1 ∧ r.place = 36
  bias : r.bias = w.bias
  basic : w.basic ≤ w.written
  first : (w.written == w.basic) = (r.position == 0)
  codePoint : r.codePoint ≤ m
  due : r.position + w.delta = (m - r.codePoint) * (w.written + 1)

variable {label : List Char} {m : Nat}

/-- Code points that the label does not have are passed over. -/
theorem Ready.follows (h : Ready label m w r) (hm : m ≤ n)
    (hnone : ∀ c ∈ label, ¬ (m ≤ c.toNat ∧ c.toNat < n)) :
    Follows n [] label { w with delta := w.delta + (n - m) * (w.written + 1) } r := by
  refine ⟨?_, h.written, h.complete, h.bias, h.basic, h.first, Nat.le_trans h.codePoint hm, ?_⟩
  · rw [h.output, putIn, List.filter_nil, List.nil_append]
    refine List.filter_congr fun c hc => decide_eq_decide.2 ?_
    have := hnone c hc
    omega
  · have hcode := h.codePoint
    have hsum : n - r.codePoint = (m - r.codePoint) + (n - m) := by omega
    show r.position + (w.delta + (n - m) * (w.written + 1)) = _
    rw [← Nat.add_assoc, h.due, hsum, Nat.add_mul]
    rfl

/-- Everything with the code point is written and read. -/
theorem Follows.ready (h : Follows n label [] w r) :
    Ready label (n + 1) { w with delta := w.delta + 1 } r := by
  have houtput : r.output = label.filter fun c => c.toNat ≤ n := by
    rw [h.output, putIn, List.filter_nil, List.append_nil]
  refine ⟨?_, h.written, h.complete, h.bias, h.basic, h.first, Nat.le_succ_of_le h.codePoint, ?_⟩
  · rw [houtput]
    exact List.filter_congr fun c _ => decide_eq_decide.2 Nat.lt_succ_iff.symm
  · have hsum : n + 1 - r.codePoint = (n - r.codePoint) + 1 := Nat.succ_sub h.codePoint
    show r.position + (w.delta + 1) = _
    rw [← Nat.add_assoc, h.due, hsum, Nat.add_mul, Nat.one_mul, ← houtput, ← h.written,
      Nat.add_assoc]

/-- All code points of the label from `m` on are written and read. -/
theorem Ready.run {ns : List Nat} (hsorted : ns.Pairwise (· < ·)) (hlow : ∀ n ∈ ns, m ≤ n)
    (hall : ∀ c ∈ label, m ≤ c.toNat → c.toNat ∈ ns) (h : Ready label m w r)
    (hr : Reads lead basic w r) :
    ∃ next, Reads lead basic (ns.foldl (Writing.pass label) (m, w)).2 next ∧
      next.output = label ∧ next.place = 36 := by
  induction ns generalizing m w r with
  | nil =>
    refine ⟨r, hr, ?_, h.complete.2.2⟩
    rw [h.output]
    refine List.filter_eq_self.2 fun c hc => decide_eq_true ?_
    exact Nat.lt_of_not_le fun hm => List.not_mem_nil (hall c hc hm)
  | cons n ns ih =>
    obtain ⟨hbehind, hsorted⟩ := List.pairwise_cons.1 hsorted
    have hfollows := h.follows (hlow n List.mem_cons_self) fun c hc hbetween => by
      rcases List.mem_cons.1 (hall c hc hbetween.1) with hn | hn
      · omega
      · have := hbehind _ hn
        omega
    obtain ⟨next, hnext, hread⟩ := hfollows.run hr
    rw [List.foldl_cons]
    refine ih hsorted hbehind (fun c hc hle => ?_) hnext.ready hread
    rcases List.mem_cons.1 (hall c hc (by have := hlow n List.mem_cons_self; omega)) with hn | hn
    · omega
    · exact hn

/-! ## Labels -/

theorem pairwise_eraseDups (l : List Nat) (h : l.Pairwise (· ≤ ·)) :
    l.eraseDups.Pairwise (· < ·) := by
  match l, h with
  | [], _ => exact .nil
  | n :: l, h =>
    obtain ⟨hle, hl⟩ := List.pairwise_cons.1 h
    rw [List.eraseDups_cons]
    refine List.pairwise_cons.2 ⟨fun m hm => ?_, pairwise_eraseDups _ (hl.filter _)⟩
    obtain ⟨hm, hne⟩ := List.mem_filter.1 (List.mem_eraseDups.1 hm)
    exact Nat.lt_of_le_of_ne (hle m hm) fun heq => by simp [heq] at hne
termination_by l.length
decreasing_by exact Nat.lt_succ_of_le (List.length_filter_le _ _)

def basicOf (label : List Char) : List Char := label.filter fun c => c.toNat < 128

/-- What is written in front of the digits. -/
def leadOf (label : List Char) : List Char :=
  if (basicOf label).isEmpty then [] else basicOf label ++ ['-']

/-- The writer behind the basic characters of a label. -/
def Writing.behindBasic (label : List Char) : Writing :=
  { written := (basicOf label).length, basic := (basicOf label).length,
    output := (leadOf label).reverse }

/-- What is written are the basic characters and digits that the reader puts the label together
from. -/
theorem exists_encode (label : List Char) : ∃ tail r, encode label = leadOf label ++ tail ∧
    (∀ c ∈ tail, IsDigit c) ∧
    tail.foldlM Reading.step? { output := basicOf label } = some r ∧ r.output = label ∧
    r.place = 36 := by
  have hmem (n : Nat) : n ∈ ((label.map Char.toNat).filter (128 ≤ ·)).mergeSort.eraseDups ↔
      128 ≤ n ∧ ∃ c ∈ label, c.toNat = n := by
    rw [List.mem_eraseDups, List.mem_mergeSort, List.mem_filter, List.mem_map, decide_eq_true_iff,
      and_comm]
  have hsorted : ((label.map Char.toNat).filter (128 ≤ ·)).mergeSort.Pairwise (· ≤ ·) := by
    refine (List.pairwise_mergeSort ?_ ?_ _).imp of_decide_eq_true
    · intro a b c hab hbc
      simp only [decide_eq_true_eq] at *
      omega
    · intro a b
      simp only [Bool.or_eq_true, decide_eq_true_eq]
      omega
  have hready : Ready label 128 (.behindBasic label) { output := basicOf label } := by
    refine ⟨rfl, rfl, ⟨rfl, rfl, rfl⟩, rfl, Nat.le_refl _, ?_, Nat.le_refl _, ?_⟩
    · simp [Writing.behindBasic]
    · simp [Writing.behindBasic]
  have hreads : Reads (leadOf label) (basicOf label) (.behindBasic label)
      { output := basicOf label } := ⟨[], by simp [Writing.behindBasic], by simp, rfl⟩
  obtain ⟨r, ⟨tail, houtput, htail, hread⟩, hlabel, hplace⟩ :=
    hready.run (pairwise_eraseDups _ hsorted) (fun n hn => ((hmem n).1 hn).1)
      (fun c hc hle => (hmem _).2 ⟨hle, c, hc, rfl⟩) hreads
  exact ⟨tail, r, houtput, htail, hread, hlabel, hplace⟩

theorem IsDigit.ne_hyphen (h : IsDigit c) : c ≠ '-' := by
  obtain ⟨n, hn, rfl⟩ := h
  have hall : ∀ m < 36, digit m ≠ '-' := by decide
  exact hall n hn

/-- **A written label is read back.** -/
theorem decode?_encode (label : List Char) : decode? (encode label) = some label := by
  obtain ⟨tail, r, hencode, htail, hread, rfl, hplace⟩ := exists_encode label
  have hhyphen : '-' ∉ tail := fun hm => (htail _ hm).ne_hyphen rfl
  have hbasic : (basicOf r.output).all (fun c => c.toNat < 128) = true :=
    List.all_eq_true.2 fun c hc => (List.mem_filter.1 hc).2
  have hend : (if r.place = 36 then some r.output else none) = some r.output := if_pos hplace
  rw [hencode, leadOf]
  cases hb : basicOf r.output with
  | nil =>
    rw [hb] at hbasic hread
    show decode? tail = _
    unfold decode?
    rw [cutLast?_of_not_mem hhyphen]
    dsimp only
    rw [if_pos hbasic, hread]
    exact hend
  | cons b basic =>
    rw [hb] at hbasic hread
    unfold decode?
    rw [if_neg (by simp), List.append_assoc, List.singleton_append, cutLast?_append _ hhyphen]
    dsimp only
    rw [if_pos hbasic, hread]
    exact hend

/-- A written label consists of its ASCII characters, a hyphen and digits. -/
theorem mem_encode (h : c ∈ encode label) : (c ∈ label ∧ c.toNat < 128) ∨ c = '-' ∨ IsDigit c := by
  obtain ⟨tail, r, hencode, htail, -⟩ := exists_encode label
  rw [hencode, leadOf, List.mem_append] at h
  rcases h with h | h
  · split at h
    · exact absurd h List.not_mem_nil
    · rcases List.mem_append.1 h with h | h
      · exact Or.inl ⟨List.mem_of_mem_filter h, of_decide_eq_true (List.mem_filter.1 h).2⟩
      · exact Or.inr (Or.inl (List.mem_singleton.1 h))
  · exact Or.inr (Or.inr (htail c h))

/-! ## What is read -/

/-- What is put in are the basic characters and others with code points from 128 on. -/
structure PutsIn (basic : List Char) (r : Reading) : Prop where
  output : ∀ c ∈ r.output, c ∈ basic ∨ 128 ≤ c.toNat
  codePoint : 128 ≤ r.codePoint

theorem PutsIn.step {next : Reading} (h : PutsIn basic r) (hstep : r.step? c = some next) :
    PutsIn basic next := by
  unfold Reading.step? at hstep
  obtain ⟨d, -, hstep⟩ := Option.bind_eq_some_iff.1 hstep
  dsimp only at hstep
  split at hstep
  · unfold Reading.finish? at hstep
    dsimp only at hstep
    split at hstep
    · rename_i hvalid
      obtain rfl := Option.some.inj hstep
      have hcode := h.codePoint
      have hhigh := Nat.le_trans hcode (Nat.le_add_right r.codePoint
        ((r.index + d * r.weight) / (r.output.length + 1)))
      refine ⟨fun x hx => ?_, hhigh⟩
      rcases List.mem_append.1 hx with hx | hx
      · exact h.output x (List.mem_of_mem_take hx)
      · rcases List.mem_cons.1 hx with rfl | hx
        · rw [toNat_ofNat_of_isCodePoint]
          · exact Or.inr hhigh
          · simp only [isCodePoint, Bool.or_eq_true, Bool.and_eq_true, decide_eq_true_eq]
            omega
        · exact h.output x (List.mem_of_mem_drop hx)
    · cases hstep
  · obtain rfl := Option.some.inj hstep
    exact ⟨h.output, h.codePoint⟩

theorem PutsIn.run {next : Reading} {tail : List Char} (h : PutsIn basic r)
    (hrun : tail.foldlM Reading.step? r = some next) : PutsIn basic next := by
  induction tail generalizing r with
  | nil =>
    obtain rfl := Option.some.inj hrun
    exact h
  | cons c tail ih =>
    rw [List.foldlM_cons] at hrun
    obtain ⟨middle, hstep, hrun⟩ := Option.bind_eq_some_iff.1 hrun
    exact ih (h.step hstep) hrun

/-- The ASCII characters that are read are written as they are. -/
theorem mem_of_decode? {s : List Char} (h : decode? s = some label) :
    ∀ c ∈ label, c ∈ s ∨ 128 ≤ c.toNat := by
  have hread {basic tail : List Char} (hbasic : ∀ c ∈ basic, c ∈ s)
      (h : (if (basic.all fun c => c.toNat < 128) = true then
        (tail.foldlM Reading.step? { output := basic }).bind fun r =>
          if r.place = 36 then some r.output else none
        else none) = some label) : ∀ c ∈ label, c ∈ s ∨ 128 ≤ c.toNat := by
    split at h
    · obtain ⟨r, hrun, h⟩ := Option.bind_eq_some_iff.1 h
      split at h
      · obtain rfl := Option.some.inj h
        have hstart : PutsIn basic { output := basic } := ⟨fun c hc => Or.inl hc, Nat.le_refl _⟩
        exact fun c hc => ((hstart.run hrun).output c hc).imp_left (hbasic c)
      · cases h
    · cases h
  unfold decode? at h
  obtain hs | ⟨before, after, rfl, hafter⟩ := eq_cutLast? '-' s
  · rw [cutLast?_of_not_mem hs] at h
    exact hread (by simp) h
  · rw [cutLast?_append before hafter] at h
    cases before with
    | nil => exact hread (by simp) h
    | cons b before => exact hread (fun c hc => List.mem_append_left _ hc) h

/-! ## Texts that are no written labels -/

theorem foldlM_eq_none {tail : List Char} (hc : value? c = none) (h : c ∈ tail) (r : Reading) :
    tail.foldlM Reading.step? r = none := by
  induction tail generalizing r with
  | nil => cases h
  | cons d tail ih =>
    rw [List.foldlM_cons]
    rcases List.mem_cons.1 h with rfl | h
    · have hstep : r.step? c = none := by
        unfold Reading.step?
        rw [hc]
        rfl
      rw [hstep]
      rfl
    · cases r.step? d with
      | none => rfl
      | some next => exact ih h next

/-- What stands behind the last hyphen are digits. -/
theorem decode?_eq_none {s rest : List Char} (hc : value? c = none) (hne : c ≠ '-')
    (hrest : '-' ∉ rest) : decode? (s ++ c :: rest) = none := by
  have hread (basic before : List Char) : (before ++ c :: rest).foldlM Reading.step?
      { output := basic } = none := foldlM_eq_none hc (by simp) _
  unfold decode?
  obtain hs | ⟨before, after, rfl, hafter⟩ := eq_cutLast? '-' s
  · rw [cutLast?_of_not_mem (by simp [hs, hrest, Ne.symm hne])]
    dsimp only
    rw [hread]
    simp
  · have hcut : cutLast? '-' (before ++ '-' :: after ++ c :: rest) =
        some (before, after ++ c :: rest) := by
      rw [List.append_assoc, List.cons_append]
      exact cutLast?_append before (by simp [hafter, hrest, Ne.symm hne])
    rw [hcut]
    cases before with
    | nil =>
      dsimp only
      rw [hread]
      simp
    | cons b before =>
      dsimp only
      rw [hread]
      simp

end LoginGate.Url.Punycode
