import LoginGate.Proofs.Number.Shortest
import LoginGate.Proofs.Text.Numerals

/-!
# What written numbers stand for

    numeralValue before after  =  the digits on both sides of a point, as a rational

`leadingForm x` and `positional` keep the value of the shortest decimal of `x`: the first only drops
zeros at the end, the second only puts the point at its place.
-/

namespace LoginGate.Number

open LoginGate.Text

/-- The value of digits in front of a point and behind it. -/
def numeralValue (before after : List Char) : ℚ :=
  Nat.ofDigitChars 10 (before ++ after) 0 / 10 ^ after.length

theorem ofDigitChars_zeros (s : List Char) (n : ℕ) :
    Nat.ofDigitChars 10 (s ++ List.replicate n '0') 0 = 10 ^ n * Nat.ofDigitChars 10 s 0 := by
  rw [Nat.ofDigitChars_append, Nat.ofDigitChars_replicate_zero]

theorem ofDigitChars_eq_zero {s : List Char} (hs : ∀ c ∈ s, isDigit c = true) :
    Nat.ofDigitChars 10 s 0 = 0 ↔ ∀ c ∈ s, c = '0' := by
  induction s with
  | nil => simp
  | cons c s ih =>
    have hc := hs c List.mem_cons_self
    rw [isDigit, Bool.and_eq_true, decide_eq_true_eq, decide_eq_true_eq] at hc
    have hzero : c.toNat - '0'.toNat = 0 ↔ c = '0' := by
      have hchar : '0'.toNat = 48 := rfl
      rw [← Char.toNat_inj, hchar]
      omega
    rw [Nat.ofDigitChars_cons, Nat.mul_zero, Nat.zero_add, Nat.ofDigitChars_eq_ofDigitChars_zero,
      Nat.add_eq_zero_iff, ih fun d hd => hs d (List.mem_cons_of_mem c hd), Nat.mul_eq_zero, hzero,
      List.forall_mem_cons]
    simp

theorem ofDigitChars_mod_ten_ne {s : List Char} (hs : ∀ c ∈ s, isDigit c = true) (hne : s ≠ [])
    (hlast : s.getLast? ≠ some '0') : Nat.ofDigitChars 10 s 0 % 10 ≠ 0 := by
  obtain ⟨s, c, rfl⟩ := (List.eq_nil_or_concat' s).resolve_left hne
  have hc := hs c (List.mem_append_right s List.mem_cons_self)
  rw [List.getLast?_append, List.getLast?_singleton, Option.some_or, Ne, Option.some_inj,
    ← Char.toNat_inj] at hlast
  rw [isDigit, Bool.and_eq_true, decide_eq_true_eq, decide_eq_true_eq] at hc
  have hzero : '0'.toNat = 48 := rfl
  rw [Nat.ofDigitChars_append, Nat.ofDigitChars_cons, Nat.ofDigitChars_nil]
  omega

theorem numeralValue_eq_zero {before after : List Char}
    (h : ∀ c ∈ before ++ after, isDigit c = true) :
    numeralValue before after = 0 ↔ ∀ c ∈ before ++ after, c = '0' := by
  rw [numeralValue, div_eq_zero_iff, or_iff_left (by positivity), Nat.cast_eq_zero,
    ofDigitChars_eq_zero h]

/-! ## Digits with the power of ten of the first one -/

/-- Digits that do not end in a zero, with the power of ten of the first one, which stand for `q`. -/
structure Leads (q : ℚ) (digits : List Char) (power : ℤ) : Prop where
  ne_nil : digits ≠ []
  isDigit : ∀ c ∈ digits, isDigit c = true
  getLast? : digits.getLast? ≠ some '0'
  value : Nat.ofDigitChars 10 digits 0 * (10 : ℚ) ^ (power + 1 - digits.length) = q

theorem Binary64.leads_leadingForm {x : Binary64} (h : x.shortest.digits ≠ 0) :
    Leads x.shortest.value x.leadingForm.1 x.leadingForm.2 := by
  obtain ⟨n, hsplit, hlast⟩ := exists_dropTrailingZeros (decimal x.shortest.digits)
  have hvalue : 10 ^ n * Nat.ofDigitChars 10 (dropTrailingZeros (decimal x.shortest.digits)) 0 =
      x.shortest.digits := by
    rw [← ofDigitChars_zeros, ← hsplit]
    exact Nat.ofDigitChars_toDigits (by decide) (by decide)
  have hne : dropTrailingZeros (decimal x.shortest.digits) ≠ [] := by
    intro hnil
    rw [hnil] at hvalue
    exact h hvalue.symm
  have hdigits : x.leadingForm.1 = dropTrailingZeros (decimal x.shortest.digits) := by
    unfold leadingForm
    dsimp only
    split
    · rename_i hnil
      exact absurd hnil hne
    · rfl
  have hlength : (decimal x.shortest.digits).length = x.leadingForm.1.length + n := by
    rw [hdigits]
    nth_rewrite 1 [hsplit]
    rw [List.length_append, List.length_replicate]
  have hpower : x.leadingForm.2 + 1 - x.leadingForm.1.length = x.shortest.exponent + n := by
    show x.shortest.exponent + ((decimal x.shortest.digits).length : ℤ) - 1 + 1 - _ = _
    rw [hlength]
    push_cast
    ring
  refine ⟨hdigits ▸ hne, fun c hc => ?_, hdigits ▸ hlast, ?_⟩
  · rw [hdigits] at hc
    refine isDigit_of_mem_decimal (n := x.shortest.digits) ?_
    rw [hsplit]
    exact List.mem_append_left _ hc
  · have hvalue' : (10 : ℚ) ^ n * Nat.ofDigitChars 10 x.leadingForm.1 0 = x.shortest.digits := by
      rw [hdigits]
      exact_mod_cast hvalue
    rw [hpower, Decimal.value, ← hvalue', zpow_add₀ (by norm_num), zpow_natCast]
    ring

/-! ## The point at its place -/

/-- A number is written with digits on both sides of a point, or as a whole number. -/
structure Writes (q : ℚ) (before after : List Char) : Prop where
  ne_nil : before ≠ []
  isDigit : ∀ c ∈ before ++ after, isDigit c = true
  getLast? : after.getLast? ≠ some '0'
  value : numeralValue before after = q

section

variable {q : ℚ} {digits : List Char} {power : ℤ} (h : Leads q digits power)

include h

theorem Leads.writes_behind (hpower : power < 0) :
    Writes q ['0'] (List.replicate (-power - 1).toNat '0' ++ digits) := by
  set n := (-power - 1).toNat with hn
  refine ⟨List.cons_ne_nil _ _, fun c hc => ?_, ?_, ?_⟩
  · rw [List.singleton_append, List.mem_cons, List.mem_append] at hc
    obtain rfl | hc | hc := hc
    · rfl
    · rw [List.eq_of_mem_replicate hc]
      rfl
    · exact h.isDigit c hc
  · rw [List.getLast?_append_of_ne_nil _ h.ne_nil]
    exact h.getLast?
  · have hdigits : Nat.ofDigitChars 10 (['0'] ++ (List.replicate n '0' ++ digits)) 0 =
        Nat.ofDigitChars 10 digits 0 := by
      rw [show ['0'] = List.replicate 1 '0' from rfl, ← List.append_assoc,
        ← List.replicate_add, Nat.ofDigitChars_append, Nat.ofDigitChars_replicate_zero, Nat.mul_zero]
    have hexponent : power + 1 - digits.length =
        -((List.replicate n '0' ++ digits).length : ℤ) := by
      rw [List.length_append, List.length_replicate]
      push_cast
      omega
    rw [numeralValue, hdigits, ← h.value, hexponent, zpow_neg, zpow_natCast, div_eq_mul_inv]

theorem Leads.writes_before (hpower : 0 ≤ power) (hlength : digits.length ≤ power.toNat + 1) :
    Writes q (digits ++ List.replicate (power.toNat + 1 - digits.length) '0') [] := by
  refine ⟨List.append_ne_nil_of_left_ne_nil h.ne_nil _, fun c hc => ?_, by simp, ?_⟩
  · rw [List.append_nil] at hc
    obtain hc | hc := List.mem_append.1 hc
    · exact h.isDigit c hc
    · rw [List.eq_of_mem_replicate hc]
      rfl
  · have hexponent : power + 1 - digits.length = ((power.toNat + 1 - digits.length : ℕ) : ℤ) := by
      omega
    rw [numeralValue, List.append_nil, ofDigitChars_zeros, ← h.value, hexponent, zpow_natCast]
    push_cast
    rw [List.length_nil, pow_zero, div_one, mul_comm]

theorem Leads.writes_around (hpower : 0 ≤ power) (hlength : power.toNat + 1 < digits.length) :
    Writes q (digits.take (power.toNat + 1)) (digits.drop (power.toNat + 1)) := by
  have hne : digits.drop (power.toNat + 1) ≠ [] := by
    rw [Ne, List.drop_eq_nil_iff]
    omega
  refine ⟨?_, ?_, ?_, ?_⟩
  · rw [Ne, List.take_eq_nil_iff]
    exact not_or.2 ⟨Nat.succ_ne_zero _, h.ne_nil⟩
  · rw [List.take_append_drop]
    exact h.isDigit
  · have hlast : (digits.drop (power.toNat + 1)).getLast? = digits.getLast? := by
      nth_rewrite 2 [← List.take_append_drop (power.toNat + 1) digits]
      rw [List.getLast?_append_of_ne_nil _ hne]
    rw [hlast]
    exact h.getLast?
  · have hexponent : power + 1 - digits.length =
        -((digits.drop (power.toNat + 1)).length : ℤ) := by
      rw [List.length_drop]
      omega
    rw [numeralValue, List.take_append_drop, ← h.value, hexponent, zpow_neg, zpow_natCast,
      div_eq_mul_inv]

theorem Binary64.positional_eq (whole : List Char) : ∃ before after, Writes q before after ∧
    positional digits power whole = before ++ (if after = [] then whole else '.' :: after) := by
  unfold positional
  dsimp only
  split_ifs with hneg hshort
  · refine ⟨_, _, h.writes_behind hneg, ?_⟩
    rw [if_neg (List.append_ne_nil_of_right_ne_nil _ h.ne_nil), List.append_assoc]
    rfl
  · exact ⟨_, _, h.writes_before (not_lt.1 hneg) hshort, by rw [if_pos rfl]⟩
  · refine ⟨_, _, h.writes_around (not_lt.1 hneg) (not_le.1 hshort), ?_⟩
    have hne : digits.drop (power.toNat + 1) ≠ [] := by
      rw [Ne, List.drop_eq_nil_iff]
      exact hshort
    rw [if_neg hne, List.append_assoc]
    rfl

end

end LoginGate.Number
