import LoginGate.Number.Binary64
import Mathlib.Algebra.Order.Field.Power
import Mathlib.Data.Nat.Log
import Mathlib.Tactic.FieldSimp
import Mathlib.Tactic.Linarith
import Mathlib.Tactic.NormNum
import Mathlib.Tactic.Positivity
import Mathlib.Tactic.Ring

/-!
# What rounds to a number

The rationals that round to a number of the format form an interval around it, `Rounds x`, half a
unit of its last place wide on either side, and a quarter below a power of two.  The ends belong to
it iff the mantissa is even.  Rounding finds the number whose interval it is:

    ofRatio negative num den = some x ↔
      x.negative = negative ∧ x.InFormat ∧ x.Rounds (num / den)             (ofRatio_eq_some_iff)
-/

namespace LoginGate.Number

/-! ## Natural numbers -/

/-- A natural number that is nearest to a rational, and even if another one is as near. -/
structure IsNearest (q : ℚ) (m : ℕ) : Prop where
  low : 2 * (m : ℚ) - 1 ≤ 2 * q
  high : 2 * q ≤ 2 * m + 1
  odd : m % 2 = 1 → 2 * (m : ℚ) - 1 < 2 * q ∧ 2 * q < 2 * m + 1

theorem IsNearest.le {q : ℚ} {m n : ℕ} (hm : IsNearest q m) (hn : IsNearest q n) : m ≤ n := by
  by_contra h
  have hcast : (n : ℚ) + 1 ≤ m := by exact_mod_cast Nat.lt_of_not_le h
  have hlow := hm.low
  have hhigh := hn.high
  -- both are as near, so they are neighbours, and one of them is odd
  have hnext : m = n + 1 := by
    have : (m : ℚ) = n + 1 := by linarith
    exact_mod_cast this
  rcases Nat.mod_two_eq_zero_or_one n with hodd | hodd
  · have := (hm.odd (by omega)).1
    linarith
  · have := (hn.odd hodd).2
    linarith

theorem IsNearest.eq {q : ℚ} {m n : ℕ} (hm : IsNearest q m) (hn : IsNearest q n) : m = n :=
  Nat.le_antisymm (hm.le hn) (hn.le hm)

theorem isNearest_roundDiv (num : ℕ) {den : ℕ} (hden : 0 < den) :
    IsNearest ((num : ℚ) / den) (roundDiv num den) := by
  have hd : (0 : ℚ) < den := by exact_mod_cast hden
  have hnum : (num : ℚ) = den * (num / den : ℕ) + (num % den : ℕ) := by
    exact_mod_cast (Nat.div_add_mod num den).symm
  have hq : (num : ℚ) / den = (num / den : ℕ) + (num % den : ℕ) / den := by
    rw [hnum]
    field_simp
  have hr : (0 : ℚ) ≤ (num % den : ℕ) / den := by positivity
  have hsucc : ((num / den + 1 : ℕ) : ℚ) = (num / den : ℕ) + 1 := Nat.cast_succ _
  rw [hq]
  unfold roundDiv
  dsimp only
  split_ifs with hlt hgt heven
  · have hlt' : ((num % den : ℕ) : ℚ) / den < 1 / 2 := by
      rw [div_lt_div_iff₀ hd two_pos]
      exact_mod_cast (by omega : num % den * 2 < 1 * den)
    exact ⟨by linarith, by linarith, fun _ => ⟨by linarith, by linarith⟩⟩
  · have hgt' : 1 / 2 < ((num % den : ℕ) : ℚ) / den := by
      rw [div_lt_div_iff₀ two_pos hd]
      exact_mod_cast (by omega : 1 * den < num % den * 2)
    have hone : ((num % den : ℕ) : ℚ) / den < 1 := by
      rw [div_lt_one hd]
      exact_mod_cast Nat.mod_lt num hden
    exact ⟨by linarith, by linarith, fun _ => ⟨by linarith, by linarith⟩⟩
  all_goals
    have hhalf : ((num % den : ℕ) : ℚ) / den = 1 / 2 := by
      rw [div_eq_div_iff hd.ne' two_ne_zero]
      exact_mod_cast (by omega : num % den * 2 = 1 * den)
    rw [hhalf]
  · exact ⟨by linarith, by linarith, fun hodd => by omega⟩
  · exact ⟨by linarith, by linarith, fun hodd => by omega⟩

/-! ## Powers of two -/

theorem twoTo_toNat (e : ℤ) : (twoTo e.toNat : ℚ) = 2 ^ e * twoTo (-e).toNat := by
  have hpow (n : ℕ) : (twoTo n : ℚ) = 2 ^ n := by
    show ((Nat.pow 2 n : ℕ) : ℚ) = 2 ^ n
    exact_mod_cast rfl
  rw [hpow, hpow]
  rcases le_total 0 e with he | he
  · obtain ⟨n, rfl⟩ := Int.eq_ofNat_of_zero_le he
    simp
  · obtain ⟨n, hn⟩ := Int.eq_ofNat_of_zero_le (neg_nonneg.2 he)
    obtain rfl : e = -(n : ℤ) := by omega
    simp

theorem twoTo_pos (n : ℕ) : (0 : ℚ) < twoTo n := by
  exact_mod_cast Nat.pow_pos (n := n) (show 0 < 2 by decide)

theorem zpow_pred (e : ℤ) : (2 : ℚ) ^ e = 2 * 2 ^ (e - 1) := by
  rw [← zpow_one_add₀ two_ne_zero]
  congr 1
  ring

/-- A quotient in units of `2 ^ e`. -/
theorem scaled_eq (num den : ℕ) (e : ℤ) :
    ((num * twoTo (-e).toNat : ℕ) : ℚ) / (den * twoTo e.toNat : ℕ) = num / den / 2 ^ e := by
  rcases Nat.eq_zero_or_pos den with rfl | hden
  · simp
  have hd : (den : ℚ) ≠ 0 := by exact_mod_cast hden.ne'
  have ht := (twoTo_pos (-e).toNat).ne'
  push_cast
  rw [twoTo_toNat e]
  field_simp

namespace Binary64

/-! ## Numbers of the format -/

def magnitude (x : Binary64) : ℚ := x.mantissa * 2 ^ x.exponent

theorem magnitude_zero (negative : Bool) : (zero negative).magnitude = 0 := by
  rw [magnitude, show (zero negative).mantissa = 0 from rfl, Nat.cast_zero, zero_mul]

/-- A number of the format, with as many bits of its mantissa in use as there can be. -/
structure InFormat (x : Binary64) : Prop where
  mantissa_lt : x.mantissa < 2 ^ 53
  le_exponent : minExponent ≤ x.exponent
  exponent_le : x.exponent ≤ maxExponent
  full : 2 ^ 52 ≤ x.mantissa ∨ x.exponent = minExponent

/-- How far the numbers that round to `x` reach below it, in quarters of its last place. -/
def quartersBelow (x : Binary64) : ℕ :=
  if x.mantissa = twoTo 52 ∧ minExponent < x.exponent then 1 else 2

/-- The rationals that round to `x`. -/
structure Rounds (x : Binary64) (q : ℚ) : Prop where
  low : (x.mantissa - x.quartersBelow / 4 : ℚ) * 2 ^ x.exponent ≤ q
  high : q ≤ (x.mantissa + 1 / 2 : ℚ) * 2 ^ x.exponent
  odd : x.mantissa % 2 = 1 → (x.mantissa - x.quartersBelow / 4 : ℚ) * 2 ^ x.exponent < q ∧
    q < (x.mantissa + 1 / 2 : ℚ) * 2 ^ x.exponent

theorem quartersBelow_le (x : Binary64) : (x.quartersBelow : ℚ) ≤ 2 := by
  unfold quartersBelow
  split_ifs <;> norm_num

theorem ratio_eq (x : Binary64) : (x.ratio.1 : ℚ) / x.ratio.2 = x.magnitude := by
  have ht := (twoTo_pos (-x.exponent).toNat).ne'
  unfold ratio magnitude
  dsimp only
  push_cast
  rw [twoTo_toNat x.exponent]
  field_simp

theorem ratio_snd_pos (x : Binary64) : 0 < x.ratio.2 := Nat.pow_pos (by decide)

/-- A number rounds to itself. -/
theorem rounds_magnitude (x : Binary64) : x.Rounds x.magnitude := by
  have hscale : (0 : ℚ) < 2 ^ x.exponent := by positivity
  have hbelow : (0 : ℚ) < x.quartersBelow := by
    unfold quartersBelow
    split_ifs <;> norm_num
  have hlow : (x.mantissa - x.quartersBelow / 4 : ℚ) * 2 ^ x.exponent < x.magnitude :=
    mul_lt_mul_of_pos_right (by linarith) hscale
  have hhigh : x.magnitude < (x.mantissa + 1 / 2 : ℚ) * 2 ^ x.exponent :=
    mul_lt_mul_of_pos_right (by linarith) hscale
  exact ⟨hlow.le, hhigh.le, fun _ => ⟨hlow, hhigh⟩⟩

/-! ## Exponents -/

/-- The exponent at which a rational has a mantissa of 53 bits, or the least one. -/
structure IsExponent (q : ℚ) (e : ℤ) : Prop where
  min_le : minExponent ≤ e
  high : q < 2 ^ 53 * 2 ^ e
  full : e = minExponent ∨ 2 ^ 52 * 2 ^ e ≤ q

theorem IsExponent.le {q : ℚ} {e f : ℤ} (he : IsExponent q e) (hf : IsExponent q f) : e ≤ f := by
  by_contra h
  have hmin := hf.min_le
  obtain heq | hfull := he.full
  · omega
  · have hpow : (2 : ℚ) ^ (f + 1) ≤ 2 ^ e := zpow_le_zpow_right₀ one_le_two (by omega)
    rw [zpow_add_one₀ two_ne_zero] at hpow
    have := hf.high
    linarith

theorem IsExponent.eq {q : ℚ} {e f : ℤ} (he : IsExponent q e) (hf : IsExponent q f) : e = f :=
  le_antisymm (he.le hf) (hf.le he)

/-- The bounds that the lengths of numerator and denominator give. -/
theorem log2_bounds {num den : ℕ} (hnum : 0 < num) (hden : 0 < den) :
    (2 : ℚ) ^ ((num.log2 : ℤ) - den.log2 - 1) < num / den ∧
      (num : ℚ) / den < 2 ^ ((num.log2 : ℤ) - den.log2 + 1) := by
  have hd : (0 : ℚ) < den := by exact_mod_cast hden
  have hnum₁ : (2 : ℚ) ^ (num.log2 : ℤ) ≤ num := by
    exact_mod_cast Nat.log2_self_le hnum.ne'
  have hnum₂ : (num : ℚ) < 2 ^ ((num.log2 : ℤ) + 1) := by
    exact_mod_cast Nat.lt_log2_self (n := num)
  have hden₁ : (2 : ℚ) ^ (den.log2 : ℤ) ≤ den := by
    exact_mod_cast Nat.log2_self_le hden.ne'
  have hden₂ : (den : ℚ) < 2 ^ ((den.log2 : ℤ) + 1) := by
    exact_mod_cast Nat.lt_log2_self (n := den)
  constructor
  · rw [lt_div_iff₀ hd]
    calc (2 : ℚ) ^ ((num.log2 : ℤ) - den.log2 - 1) * den
        < 2 ^ ((num.log2 : ℤ) - den.log2 - 1) * 2 ^ ((den.log2 : ℤ) + 1) :=
          mul_lt_mul_of_pos_left hden₂ (by positivity)
      _ = 2 ^ (num.log2 : ℤ) := by
          rw [← zpow_add₀ two_ne_zero]
          congr 1
          ring
      _ ≤ num := hnum₁
  · rw [div_lt_iff₀ hd]
    calc (num : ℚ) < 2 ^ ((num.log2 : ℤ) + 1) := hnum₂
      _ = 2 ^ ((num.log2 : ℤ) - den.log2 + 1) * 2 ^ (den.log2 : ℤ) := by
          rw [← zpow_add₀ two_ne_zero]
          congr 1
          ring
      _ ≤ 2 ^ ((num.log2 : ℤ) - den.log2 + 1) * den :=
          mul_le_mul_of_nonneg_left hden₁ (by positivity)

theorem isExponent_exponentFor {num den : ℕ} (hnum : 0 < num) (hden : 0 < den) :
    IsExponent ((num : ℚ) / den) (exponentFor num den) := by
  obtain ⟨hlow, hhigh⟩ := log2_bounds hnum hden
  have hd : (0 : ℚ) < den := by exact_mod_cast hden
  unfold exponentFor
  dsimp only
  set e : ℤ := (num.log2 : ℤ) - den.log2 - 52 with he
  -- the estimate is right, or one too large
  have hshort : num * twoTo (-e).toNat < twoTo 52 * (den * twoTo e.toNat) ↔
      (num : ℚ) / den < 2 ^ 52 * 2 ^ e := by
    have hpos : (0 : ℚ) < (den * twoTo e.toNat : ℕ) := by
      push_cast
      exact mul_pos hd (twoTo_pos _)
    rw [← div_lt_iff₀ (by positivity : (0 : ℚ) < 2 ^ e), ← scaled_eq, div_lt_iff₀ hpos]
    norm_cast
  have hhigh' : (num : ℚ) / den < 2 ^ 53 * 2 ^ e := by
    rw [show (2 : ℚ) ^ 53 = 2 ^ (53 : ℤ) by norm_cast, ← zpow_add₀ two_ne_zero]
    exact hhigh.trans_le (zpow_le_zpow_right₀ one_le_two (by omega))
  have hlow' : 2 ^ 52 * (2 : ℚ) ^ (e - 1) < num / den := by
    rw [show (2 : ℚ) ^ 52 = 2 ^ (52 : ℤ) by norm_cast, ← zpow_add₀ two_ne_zero]
    exact (zpow_le_zpow_right₀ one_le_two (by omega)).trans_lt hlow
  have hpred := zpow_pred e
  -- the exponent before the least one is taken for smaller ones
  have hmax {f : ℤ} (hf₁ : (num : ℚ) / den < 2 ^ 53 * 2 ^ f) (hf₂ : 2 ^ 52 * 2 ^ f ≤ (num : ℚ) / den) :
      IsExponent ((num : ℚ) / den) (max f minExponent) := by
    rcases le_total minExponent f with h | h
    · rw [max_eq_left h]
      exact ⟨h, hf₁, Or.inr hf₂⟩
    · rw [max_eq_right h]
      have hle : (2 : ℚ) ^ f ≤ 2 ^ minExponent := zpow_le_zpow_right₀ one_le_two h
      exact ⟨le_rfl, by linarith, Or.inl rfl⟩
  split_ifs with h
  · have h := hshort.1 h
    exact hmax (by linarith) hlow'.le
  · exact hmax hhigh' (not_lt.1 fun h' => h (hshort.2 h'))

/-! ## Rounding -/

theorem isNearest_scaled (num : ℕ) {den : ℕ} (hden : 0 < den) (e : ℤ) :
    IsNearest ((num : ℚ) / den / 2 ^ e)
      (roundDiv (num * twoTo (-e).toNat) (den * twoTo e.toNat)) := by
  rw [← scaled_eq]
  exact isNearest_roundDiv _ (Nat.mul_pos hden (Nat.pow_pos (by decide)))

/-- A rational rounds to the number with its exponent and the nearest mantissa. -/
theorem rounds_of_isNearest {q : ℚ} {e : ℤ} {m : ℕ} (negative : Bool) (he : IsExponent q e)
    (hm : IsNearest (q / 2 ^ e) m) : Rounds ⟨negative, m, e⟩ q := by
  have hscale : (0 : ℚ) < 2 ^ e := by positivity
  have hq : q = q / 2 ^ e * 2 ^ e := by field_simp
  have hlow := hm.low
  have hhigh : q ≤ (m + 1 / 2 : ℚ) * 2 ^ e := by
    rw [hq]
    exact mul_le_mul_of_nonneg_right (by linarith [hm.high]) hscale.le
  by_cases hquarter : m = twoTo 52 ∧ minExponent < e
  · -- the least mantissa: what is below it would have a smaller exponent
    have hbelow : quartersBelow ⟨negative, m, e⟩ = 1 := if_pos hquarter
    obtain ⟨rfl, hmin⟩ := hquarter
    have hfull := he.full.resolve_left hmin.ne'
    refine ⟨?_, hhigh, fun hodd => absurd (show twoTo 52 % 2 = 1 from hodd) (by decide)⟩
    rw [hbelow]
    refine le_trans (mul_le_mul_of_nonneg_right ?_ hscale.le) hfull
    rw [show (((twoTo 52 : ℕ)) : ℚ) = 2 ^ 52 by norm_num]
    norm_num
  · have hbelow : quartersBelow ⟨negative, m, e⟩ = 2 := if_neg hquarter
    have hlow' : (m - 1 / 2 : ℚ) * 2 ^ e ≤ q := by
      rw [hq]
      exact mul_le_mul_of_nonneg_right (by linarith) hscale.le
    have hhalf : (m - (quartersBelow ⟨negative, m, e⟩ : ℕ) / 4 : ℚ) = m - 1 / 2 := by
      rw [hbelow]
      norm_num
    refine ⟨hhalf ▸ hlow', hhigh, fun hodd => ?_⟩
    obtain ⟨h₁, h₂⟩ := hm.odd hodd
    dsimp only
    rw [hhalf, hq]
    exact ⟨mul_lt_mul_of_pos_right (by linarith) hscale,
      mul_lt_mul_of_pos_right (by linarith) hscale⟩

/-- A mantissa that is rounded up to 54 bits has lost its last one. -/
theorem rounds_of_carry {q : ℚ} {e : ℤ} (negative : Bool) (he : IsExponent q e)
    (hm : IsNearest (q / 2 ^ e) (2 ^ 53)) : Rounds ⟨negative, twoTo 52, e + 1⟩ q := by
  have hscale : (0 : ℚ) < 2 ^ e := by positivity
  have hq : q = q / 2 ^ e * 2 ^ e := by field_simp
  have hmin := he.min_le
  have hbelow : quartersBelow ⟨negative, twoTo 52, e + 1⟩ = 1 :=
    if_pos ⟨rfl, show minExponent < e + 1 by omega⟩
  have hlow := hm.low
  have hhigh := he.high
  push_cast at hlow
  have hlow' : (2 ^ 53 - 1 / 2 : ℚ) * 2 ^ e ≤ q := by
    rw [hq]
    exact mul_le_mul_of_nonneg_right (by linarith) hscale.le
  have htwo : ((twoTo 52 : ℕ) : ℚ) = 2 ^ 52 := by norm_num
  refine ⟨?_, ?_, fun hodd => absurd (show twoTo 52 % 2 = 1 from hodd) (by decide)⟩
  all_goals
    dsimp only
    rw [zpow_add_one₀ two_ne_zero, htwo]
  · rw [hbelow]
    push_cast
    linarith
  · linarith

theorem inFormat_of_rounding {q : ℚ} {e : ℤ} {m : ℕ} (negative : Bool) (he : IsExponent q e)
    (hm : IsNearest (q / 2 ^ e) m) (hlt : m < 2 ^ 53) (hmax : e ≤ maxExponent) :
    InFormat ⟨negative, m, e⟩ := by
  refine ⟨hlt, he.min_le, hmax, ?_⟩
  obtain heq | hfull := he.full
  · exact Or.inr heq
  · refine Or.inl ?_
    have hone : 2 ^ 52 ≤ q / 2 ^ e := by
      rw [le_div_iff₀ (by positivity)]
      exact hfull
    have hhigh := hm.high
    have : ((2 ^ 52 : ℕ) : ℚ) < m + 1 := by
      push_cast
      linarith
    exact Nat.lt_succ_iff.1 (by exact_mod_cast this)

section

variable {x : Binary64} {q : ℚ} (h : x.Rounds q)

include h

theorem Rounds.div_le : q / 2 ^ x.exponent ≤ x.mantissa + 1 / 2 := by
  rw [div_le_iff₀ (by positivity)]
  exact h.high

theorem Rounds.le_div : (x.mantissa - x.quartersBelow / 4 : ℚ) ≤ q / 2 ^ x.exponent := by
  rw [le_div_iff₀ (by positivity)]
  exact h.low

theorem Rounds.isNearest : IsNearest (q / 2 ^ x.exponent) x.mantissa := by
  have hscale : (0 : ℚ) < 2 ^ x.exponent := by positivity
  have hdiv := h.div_le
  have hlow := h.le_div
  have hquarters := x.quartersBelow_le
  refine ⟨by linarith, by linarith, fun hodd => ?_⟩
  obtain ⟨h₁, h₂⟩ := h.odd hodd
  rw [← lt_div_iff₀ hscale] at h₁
  rw [← div_lt_iff₀ hscale] at h₂
  exact ⟨by linarith, by linarith⟩

variable (hx : x.InFormat)

include hx

/-- What rounds up to a power of two has the exponent below. -/
theorem Rounds.below_power (hmin : x.exponent ≠ minExponent) (hq : q < 2 ^ 52 * 2 ^ x.exponent) :
    x.mantissa = 2 ^ 52 ∧ IsExponent q (x.exponent - 1) ∧
      IsNearest (q / 2 ^ (x.exponent - 1)) (2 ^ 53) := by
  have hdiv := h.div_le
  have hlow := h.le_div
  have hquarters := x.quartersBelow_le
  have hmin' : minExponent < x.exponent := lt_of_le_of_ne hx.le_exponent (Ne.symm hmin)
  have hq' : q / 2 ^ x.exponent < 2 ^ 52 := by
    rw [div_lt_iff₀ (by positivity)]
    exact hq
  have hmantissa : x.mantissa = 2 ^ 52 := by
    refine le_antisymm ?_ (hx.full.resolve_right hmin)
    have : (x.mantissa : ℚ) < (2 ^ 52 + 1 : ℕ) := by
      push_cast
      linarith
    exact Nat.lt_succ_iff.1 (by exact_mod_cast this)
  have hone : x.quartersBelow = 1 := if_pos ⟨hmantissa, hmin'⟩
  have hpred : q / 2 ^ (x.exponent - 1) = 2 * (q / 2 ^ x.exponent) := by
    rw [zpow_pred x.exponent]
    field_simp
  have hpos : (0 : ℚ) < 2 ^ (x.exponent - 1) := by positivity
  rw [hmantissa, hone] at hlow
  push_cast at hlow
  refine ⟨hmantissa, ⟨by omega, ?_, Or.inr ?_⟩, ?_⟩
  · rw [← div_lt_iff₀ hpos, hpred]
    linarith
  · rw [← le_div_iff₀ hpos, hpred]
    linarith
  · rw [hpred]
    refine ⟨?_, ?_, fun hodd => absurd hodd (by decide)⟩
    · push_cast
      linarith
    · push_cast
      linarith

/-- What rounds to a number of the format has its exponent and its mantissa, unless it lies below a
power of two. -/
theorem isExponent_of_rounds :
    (IsExponent q x.exponent ∧ IsNearest (q / 2 ^ x.exponent) x.mantissa) ∨
      (x.mantissa = 2 ^ 52 ∧ IsExponent q (x.exponent - 1) ∧
        IsNearest (q / 2 ^ (x.exponent - 1)) (2 ^ 53)) := by
  have hm : (x.mantissa : ℚ) + 1 ≤ 2 ^ 53 := by exact_mod_cast hx.mantissa_lt
  have hhigh : q < 2 ^ 53 * 2 ^ x.exponent :=
    h.high.trans_lt (mul_lt_mul_of_pos_right (by linarith) (by positivity))
  by_cases hfull : x.exponent = minExponent ∨ 2 ^ 52 * 2 ^ x.exponent ≤ q
  · exact Or.inl ⟨⟨hx.le_exponent, hhigh, hfull⟩, h.isNearest⟩
  · rw [not_or, not_le] at hfull
    exact Or.inr (h.below_power hx hfull.1 hfull.2)

end

/-- **Rounding finds the number whose interval it is.** -/
theorem ofRatio_eq_some_iff {negative : Bool} {num den : ℕ} (hnum : 0 < num) (hden : 0 < den)
    {x : Binary64} : ofRatio negative num den = some x ↔
      x.negative = negative ∧ x.InFormat ∧ x.Rounds ((num : ℚ) / den) := by
  have he := isExponent_exponentFor hnum hden
  have hm := isNearest_scaled num hden (exponentFor num den)
  rw [ofRatio, if_neg hnum.ne']
  dsimp only
  set e := exponentFor num den with hedef
  set m := roundDiv (num * twoTo (-e).toNat) (den * twoTo e.toNat) with hmdef
  constructor
  · intro h
    split_ifs at h with hcarry hmax hmax
    · obtain rfl := Option.some.inj h
      rw [hcarry] at hm
      exact ⟨rfl, ⟨by norm_num, by have := he.min_le; dsimp only; omega, not_lt.1 hmax,
        Or.inl le_rfl⟩, rounds_of_carry negative he hm⟩
    · obtain rfl := Option.some.inj h
      have hle : m < 2 ^ 53 := by
        have hlow := hm.low
        have hhigh : (num : ℚ) / den / 2 ^ e < 2 ^ 53 := by
          rw [div_lt_iff₀ (by positivity)]
          exact he.high
        have : (m : ℚ) < (2 ^ 53 + 1 : ℕ) := by
          push_cast
          linarith
        exact lt_of_le_of_ne (Nat.lt_succ_iff.1 (by exact_mod_cast this)) hcarry
      exact ⟨rfl, inFormat_of_rounding negative he hm hle (not_lt.1 hmax),
        rounds_of_isNearest negative he hm⟩
  · rintro ⟨rfl, hx, hrounds⟩
    obtain ⟨he', hm'⟩ | ⟨hmantissa, he', hm'⟩ := isExponent_of_rounds hrounds hx
    · obtain heq : e = x.exponent := he.eq he'
      rw [heq] at hm
      have hmeq : m = x.mantissa := hm.eq hm'
      have hne : ¬ x.mantissa = twoTo 53 := hx.mantissa_lt.ne
      have hmax : ¬ maxExponent < x.exponent := not_lt.2 hx.exponent_le
      rw [hmeq, heq, if_neg hne, if_neg hmax]
    · obtain heq : e = x.exponent - 1 := he.eq he'
      rw [heq] at hm
      have hmeq : m = twoTo 53 := hm.eq hm'
      have hmax : ¬ maxExponent < x.exponent := not_lt.2 hx.exponent_le
      have htwo : twoTo 52 = x.mantissa := hmantissa.symm
      rw [hmeq, heq, if_pos rfl, sub_add_cancel, htwo, if_neg hmax]

theorem Rounds.eq {x y : Binary64} (hx : x.InFormat) (hy : y.InFormat)
    (hsign : x.negative = y.negative) {q : ℚ} (hq : 0 < q) (h : x.Rounds q) (h' : y.Rounds q) :
    x = y := by
  have hratio : ((q.num.toNat : ℕ) : ℚ) / q.den = q := by
    have hnum : ((q.num.toNat : ℕ) : ℤ) = q.num := Int.toNat_of_nonneg (Rat.num_nonneg.2 hq.le)
    have hcast : ((q.num.toNat : ℕ) : ℚ) = q.num := by
      exact_mod_cast congrArg (Int.cast : ℤ → ℚ) hnum
    rw [hcast, Rat.num_div_den]
  have hnum : 0 < q.num.toNat := by
    have := Rat.num_pos.2 hq
    omega
  have hofRatio {z : Binary64} : ofRatio y.negative q.num.toNat q.den = some z ↔
      z.negative = y.negative ∧ z.InFormat ∧ z.Rounds q := by
    rw [ofRatio_eq_some_iff hnum q.den_pos, hratio]
  exact Option.some.inj ((hofRatio.2 ⟨hsign, hx, h⟩).symm.trans (hofRatio.2 ⟨rfl, hy, h'⟩))

/-- Zero is rounded too. -/
theorem rounds_of_ofRatio {negative : Bool} {num den : ℕ} (hden : 0 < den) {x : Binary64}
    (h : ofRatio negative num den = some x) :
    x.negative = negative ∧ x.InFormat ∧ x.Rounds ((num : ℚ) / den) := by
  rcases Nat.eq_zero_or_pos num with rfl | hnum
  · obtain rfl := Option.some.inj h
    have hzero : (zero negative).magnitude = ((0 : ℕ) : ℚ) / den := by
      rw [Nat.cast_zero, zero_div, magnitude_zero]
    exact ⟨rfl, ⟨by show 0 < 2 ^ 53; norm_num, le_rfl, by show minExponent ≤ maxExponent; decide,
      Or.inr rfl⟩, hzero ▸ rounds_magnitude _⟩
  · exact (ofRatio_eq_some_iff hnum hden).1 h

/-- What is far from the greatest number is rounded. -/
theorem exists_ofRatio (negative : Bool) {num den : ℕ} (hden : 0 < den)
    (hlt : (num : ℚ) / den < 2 ^ 100) : ∃ x, ofRatio negative num den = some x := by
  rcases Nat.eq_zero_or_pos num with rfl | hnum
  · exact ⟨_, rfl⟩
  have he := isExponent_exponentFor hnum hden
  have hmax : exponentFor num den + 1 ≤ maxExponent := by
    obtain heq | hfull := he.full
    · rw [heq]
      decide
    · by_contra h
      have hpow : (2 : ℚ) ^ (48 : ℤ) ≤ 2 ^ exponentFor num den :=
        zpow_le_zpow_right₀ one_le_two (by
          have : maxExponent = 971 := rfl
          omega)
      norm_num at hpow hfull hlt
      linarith
  rw [ofRatio, if_neg hnum.ne']
  dsimp only
  rw [if_neg]
  · exact ⟨_, rfl⟩
  · split_ifs <;> dsimp only <;> omega

theorem Rounds.abs_sub_le {x : Binary64} {q : ℚ} (h : x.Rounds q) :
    |q - x.magnitude| ≤ 2 ^ x.exponent / 2 := by
  have hbelow : x.quartersBelow * (2 : ℚ) ^ x.exponent ≤ 2 * 2 ^ x.exponent :=
    mul_le_mul_of_nonneg_right x.quartersBelow_le (by positivity)
  have hlow := h.low
  have hhigh := h.high
  have hmagnitude : x.magnitude = x.mantissa * 2 ^ x.exponent := rfl
  rw [abs_le]
  constructor <;> linarith

/-- What is far from the least number has all bits of its mantissa in use. -/
theorem InFormat.full_of_rounds {x : Binary64} (hx : x.InFormat) {q : ℚ} (h : x.Rounds q)
    (hq : 2 ^ (-100 : ℤ) ≤ q) : minExponent < x.exponent ∧ 2 ^ 52 ≤ x.mantissa := by
  have hmin : x.exponent ≠ minExponent := by
    intro hmin
    have hm : (x.mantissa : ℚ) + 1 ≤ 2 ^ 53 := by exact_mod_cast hx.mantissa_lt
    have hhigh : q < 2 ^ 53 * 2 ^ x.exponent :=
      h.high.trans_lt (mul_lt_mul_of_pos_right (by linarith) (by positivity))
    have hpow : (2 : ℚ) ^ x.exponent ≤ 2 ^ (-153 : ℤ) := by
      rw [hmin]
      exact zpow_le_zpow_right₀ one_le_two (by decide)
    norm_num at hpow hq hhigh
    linarith
  exact ⟨lt_of_le_of_ne hx.le_exponent (Ne.symm hmin), hx.full.resolve_right hmin⟩

/-- A number is at most twice what rounds to it. -/
theorem Rounds.magnitude_le {x : Binary64} {q : ℚ} (h : x.Rounds q) (hq : 0 ≤ q) :
    x.magnitude ≤ 2 * q := by
  have hscale : (0 : ℚ) < 2 ^ x.exponent := by positivity
  rcases Nat.eq_zero_or_pos x.mantissa with hm | hm
  · rw [magnitude, hm, Nat.cast_zero, zero_mul]
    linarith
  · have hone : (1 : ℚ) ≤ x.mantissa := by exact_mod_cast hm
    have hbelow := x.quartersBelow_le
    have hhalf : x.mantissa / 2 * (2 : ℚ) ^ x.exponent ≤
        (x.mantissa - x.quartersBelow / 4) * 2 ^ x.exponent :=
      mul_le_mul_of_nonneg_right (by linarith) hscale.le
    have hlow := h.low
    rw [magnitude]
    linarith

/-- What rounds to a number other than zero is at most twice it. -/
theorem Rounds.le_magnitude {x : Binary64} {q : ℚ} (h : x.Rounds q) (hm : x.mantissa ≠ 0) :
    q ≤ 2 * x.magnitude := by
  have hone : (1 : ℚ) ≤ x.mantissa := by exact_mod_cast Nat.pos_of_ne_zero hm
  have htwice : (x.mantissa + 1 / 2 : ℚ) * 2 ^ x.exponent ≤ 2 * x.mantissa * 2 ^ x.exponent :=
    mul_le_mul_of_nonneg_right (by linarith) (by positivity)
  have hhigh := h.high
  rw [magnitude]
  linarith

/-- A sum that is not too large is rounded. -/
theorem exists_addMagnitudes {x y : Binary64} (hlt : x.magnitude + y.magnitude < 2 ^ 100) :
    ∃ z, x.addMagnitudes y = some z ∧ z.negative = false ∧ z.InFormat ∧
      z.Rounds (x.magnitude + y.magnitude) := by
  have hx : (0 : ℚ) < x.ratio.2 := by exact_mod_cast x.ratio_snd_pos
  have hy : (0 : ℚ) < y.ratio.2 := by exact_mod_cast y.ratio_snd_pos
  have hden := Nat.mul_pos x.ratio_snd_pos y.ratio_snd_pos
  have hsum : ((x.ratio.1 * y.ratio.2 + y.ratio.1 * x.ratio.2 : ℕ) : ℚ) /
      (x.ratio.2 * y.ratio.2 : ℕ) = x.magnitude + y.magnitude := by
    rw [← ratio_eq, ← ratio_eq, div_add_div _ _ hx.ne' hy.ne']
    push_cast
    ring
  obtain ⟨z, hz⟩ := exists_ofRatio false hden (hsum ▸ hlt)
  exact ⟨z, hz, hsum ▸ rounds_of_ofRatio hden hz⟩

end Binary64

end LoginGate.Number
