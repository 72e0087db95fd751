import LoginGate.Number.Shortest
import LoginGate.Proofs.Number.Rounding
import Mathlib.Data.Int.Log
import Mathlib.Data.Rat.Floor

/-!
# The shortest decimal that reads back

The multiples of a power of ten are a grid.  `shortest x` is the point of the coarsest grid that has
one which rounds to `x`, and of the points there the nearest to `x`:

    x.IsShortest x.shortest      where x is a number of the format, not zero    (isShortest_shortest)
-/

namespace LoginGate.Number

/-! ## Powers of ten -/

theorem tenTo_toNat (k : ℤ) : (tenTo k.toNat : ℚ) = 10 ^ k * tenTo (-k).toNat := by
  have hpow (n : ℕ) : (tenTo n : ℚ) = 10 ^ n := by
    show ((Nat.pow 10 n : ℕ) : ℚ) = 10 ^ n
    exact_mod_cast rfl
  rw [hpow, hpow]
  rcases le_total 0 k with hk | hk
  · obtain ⟨n, rfl⟩ := Int.eq_ofNat_of_zero_le hk
    simp
  · obtain ⟨n, hn⟩ := Int.eq_ofNat_of_zero_le (neg_nonneg.2 hk)
    obtain rfl : k = -(n : ℤ) := by omega
    simp

theorem tenTo_pos (n : ℕ) : (0 : ℚ) < tenTo n := by
  exact_mod_cast Nat.pow_pos (n := n) (show 0 < 10 by decide)

/-- A multiple of `10 ^ k` as a quotient of natural numbers. -/
theorem tenTo_div (n : ℕ) (k : ℤ) :
    ((n * tenTo k.toNat : ℕ) : ℚ) / tenTo (-k).toNat = n * 10 ^ k := by
  rw [div_eq_iff (tenTo_pos _).ne']
  push_cast
  rw [tenTo_toNat k]
  ring

def Decimal.value (d : Decimal) : ℚ := d.digits * 10 ^ d.exponent

namespace Binary64

/-- Is `q` a multiple of `10 ^ k`? -/
def OnGrid (k : ℤ) (q : ℚ) : Prop := ∃ n : ℕ, q = n * 10 ^ k

theorem OnGrid.of_le {k l : ℤ} {q : ℚ} (hle : k ≤ l) (h : OnGrid l q) : OnGrid k q := by
  obtain ⟨n, rfl⟩ := h
  refine ⟨n * 10 ^ (l - k).toNat, ?_⟩
  have hl : (10 : ℚ) ^ l = 10 ^ (l - k).toNat * 10 ^ k := by
    rw [← zpow_natCast, Int.toNat_of_nonneg (by omega), ← zpow_add₀ (by norm_num), sub_add_cancel]
  push_cast
  rw [hl]
  ring

theorem onGrid_value (d : Decimal) : OnGrid d.exponent d.value := ⟨d.digits, rfl⟩

/-! ## The greatest power of ten below a quotient -/

theorem lt_zpow_iff (num : ℕ) {den : ℕ} (hden : 0 < den) (k : ℤ) :
    num * tenTo (-k).toNat < den * tenTo k.toNat ↔ (num : ℚ) / den < 10 ^ k := by
  have hd : (0 : ℚ) < den := by exact_mod_cast hden
  have ht := tenTo_pos (-k).toNat
  rw [div_lt_iff₀ hd, ← mul_lt_mul_iff_of_pos_right ht, mul_assoc, mul_comm (den : ℚ), ← mul_assoc,
    ← tenTo_toNat, mul_comm (tenTo k.toNat : ℚ)]
  norm_cast

theorem floorLog10From_eq {num den : ℕ} (hnum : 0 < num) (hden : 0 < den) (fuel : ℕ) (k : ℤ)
    (h : |k - Int.log 10 ((num : ℚ) / den)| ≤ fuel) :
    floorLog10From num den fuel k = Int.log 10 ((num : ℚ) / den) := by
  have hq : (0 : ℚ) < num / den :=
    div_pos (by exact_mod_cast hnum) (by exact_mod_cast hden)
  induction fuel generalizing k with
  | zero => exact sub_eq_zero.1 (abs_eq_zero.1 (le_antisymm h (abs_nonneg _)))
  | succ fuel ih =>
    rw [abs_le] at h
    push_cast at h
    -- the steps are taken by comparing with the powers of ten around `k`
    have hbelow := lt_zpow_iff num hden k
    have habove := lt_zpow_iff num hden (k + 1)
    have hlog (l : ℤ) : (num : ℚ) / den < 10 ^ l ↔ Int.log 10 ((num : ℚ) / den) < l := by
      exact_mod_cast Int.lt_zpow_iff_log_lt (b := 10) (by norm_num) hq
    rw [hlog] at hbelow habove
    rw [floorLog10From]
    split_ifs with h₁ h₂
    · have := hbelow.1 h₁
      exact ih (k - 1) (abs_le.2 ⟨by omega, by omega⟩)
    · have := habove.not.1 (by omega)
      exact ih (k + 1) (abs_le.2 ⟨by omega, by omega⟩)
    · have := hbelow.not.1 h₁
      have := habove.1 (by omega)
      omega

/-- Powers of two against powers of ten, from `2 ^ 93 ≤ 10 ^ 28` and `10 ^ 3 ≤ 2 ^ 10`. -/
theorem of_two_zpow_lt {l k : ℤ} (h : (2 : ℚ) ^ l < 10 ^ k) : 3 * l < 10 * k ∨ 28 * l < 93 * k := by
  have hinj {a b : ℤ} (h : (2 : ℚ) ^ a < 2 ^ b) : a < b := (zpow_lt_zpow_iff_right₀ one_lt_two).1 h
  rcases le_total 0 k with hk | hk
  · refine Or.inl (hinj ?_)
    obtain ⟨n, rfl⟩ := Int.eq_ofNat_of_zero_le hk
    calc (2 : ℚ) ^ (3 * l) = (2 ^ l) ^ 3 := by
          rw [mul_comm, zpow_mul]
          norm_cast
      _ < (10 ^ (n : ℤ)) ^ 3 := pow_lt_pow_left₀ h (by positivity) (by norm_num)
      _ = (10 ^ 3) ^ n := by
          rw [zpow_natCast, ← pow_mul, ← pow_mul, mul_comm]
      _ ≤ (2 ^ 10) ^ n := pow_le_pow_left₀ (by norm_num) (by norm_num) n
      _ = 2 ^ (10 * (n : ℤ)) := by
          rw [zpow_mul]
          norm_cast
  · refine Or.inr (hinj ?_)
    obtain ⟨n, hn⟩ := Int.eq_ofNat_of_zero_le (neg_nonneg.2 hk)
    obtain rfl : k = -(n : ℤ) := by omega
    calc (2 : ℚ) ^ (28 * l) = (2 ^ l) ^ 28 := by
          rw [mul_comm, zpow_mul]
          norm_cast
      _ < (10 ^ (-(n : ℤ))) ^ 28 := pow_lt_pow_left₀ h (by positivity) (by norm_num)
      _ = ((10 ^ 28) ^ n)⁻¹ := by
          rw [zpow_neg, zpow_natCast, inv_pow, ← pow_mul, ← pow_mul, mul_comm]
      _ ≤ ((2 ^ 93) ^ n)⁻¹ :=
          inv_anti₀ (by positivity) (pow_le_pow_left₀ (by norm_num) (by norm_num) n)
      _ = 2 ^ (93 * -(n : ℤ)) := by
          rw [mul_neg, zpow_neg, zpow_mul]
          norm_cast

/-! ## The interval -/

theorem Rounds.between {x : Binary64} {a b q : ℚ} (ha : x.Rounds a) (hb : x.Rounds b)
    (haq : a ≤ q) (hqb : q ≤ b) : x.Rounds q :=
  ⟨ha.low.trans haq, hqb.trans hb.high, fun hodd =>
    ⟨(ha.odd hodd).1.trans_le haq, hqb.trans_lt (hb.odd hodd).2⟩⟩

theorem Rounds.pos {x : Binary64} {q : ℚ} (h : x.Rounds q) (hx : x.mantissa ≠ 0) : 0 < q := by
  have hone : (1 : ℚ) ≤ x.mantissa := by exact_mod_cast Nat.pos_of_ne_zero hx
  have hbelow := x.quartersBelow_le
  exact (mul_pos (by linarith) (by positivity)).trans_le h.low

theorem magnitude_pos {x : Binary64} (hx : x.mantissa ≠ 0) : 0 < x.magnitude :=
  x.rounds_magnitude.pos hx

section Interval

variable {x : Binary64} (hx : x.mantissa ≠ 0)

theorem interval_den_pos : (0 : ℚ) < x.interval.den := by
  have := twoTo_pos (-x.exponent).toNat
  unfold interval
  push_cast
  linarith

theorem interval_value : (x.interval.value : ℚ) = x.magnitude * x.interval.den := by
  unfold interval magnitude
  dsimp only
  push_cast
  rw [twoTo_toNat x.exponent]
  ring

theorem interval_high :
    (x.interval.high : ℚ) = (x.mantissa + 1 / 2 : ℚ) * 2 ^ x.exponent * x.interval.den := by
  unfold interval
  dsimp only
  push_cast
  rw [twoTo_toNat x.exponent]
  ring

include hx in
theorem interval_low : (x.interval.low : ℚ) =
    (x.mantissa - x.quartersBelow / 4 : ℚ) * 2 ^ x.exponent * x.interval.den := by
  have hbelow : x.interval.low = (4 * x.mantissa - x.quartersBelow) * twoTo x.exponent.toNat := rfl
  have hle : x.quartersBelow ≤ 4 * x.mantissa := by
    have : (x.quartersBelow : ℚ) ≤ 2 := x.quartersBelow_le
    have : x.quartersBelow ≤ 2 := by exact_mod_cast this
    omega
  rw [hbelow]
  unfold interval
  push_cast [Nat.cast_sub hle]
  rw [twoTo_toNat x.exponent]
  ring

include hx in
theorem contains_iff (num : ℕ) {den : ℕ} (hden : 0 < den) :
    x.interval.contains num den = true ↔ x.Rounds ((num : ℚ) / den) := by
  have hd : (0 : ℚ) < den := by exact_mod_cast hden
  have hi := x.interval_den_pos
  have hlow (q : ℚ) : q * x.interval.den * den ≤ num * x.interval.den ↔ q ≤ (num : ℚ) / den := by
    rw [le_div_iff₀ hd, mul_right_comm, mul_le_mul_iff_of_pos_right hi]
  have hhigh (q : ℚ) : num * x.interval.den ≤ q * x.interval.den * den ↔ (num : ℚ) / den ≤ q := by
    rw [div_le_iff₀ hd, mul_right_comm, mul_le_mul_iff_of_pos_right hi]
  have hlow' : x.interval.low * den ≤ num * x.interval.den ↔
      (x.mantissa - x.quartersBelow / 4 : ℚ) * 2 ^ x.exponent ≤ (num : ℚ) / den := by
    rw [← hlow, ← interval_low hx]
    norm_cast
  have hhigh' : num * x.interval.den ≤ x.interval.high * den ↔
      (num : ℚ) / den ≤ (x.mantissa + 1 / 2 : ℚ) * 2 ^ x.exponent := by
    rw [← hhigh, ← interval_high]
    norm_cast
  have hlow'' : x.interval.low * den < num * x.interval.den ↔
      (x.mantissa - x.quartersBelow / 4 : ℚ) * 2 ^ x.exponent < (num : ℚ) / den := by
    rw [← not_le, ← not_le, ← hhigh, ← interval_low hx]
    norm_cast
  have hhigh'' : num * x.interval.den < x.interval.high * den ↔
      (num : ℚ) / den < (x.mantissa + 1 / 2 : ℚ) * 2 ^ x.exponent := by
    rw [← not_le, ← not_le, ← hlow, ← interval_high]
    norm_cast
  have hclosed : x.interval.closed = (x.mantissa % 2 == 0) := rfl
  unfold Interval.contains
  rw [hclosed]
  split_ifs with heven
  · simp only [Bool.and_eq_true, decide_eq_true_eq, hlow', hhigh']
    rw [beq_iff_eq] at heven
    exact ⟨fun h => ⟨h.1, h.2, fun hodd => by omega⟩, fun h => ⟨h.low, h.high⟩⟩
  · simp only [Bool.and_eq_true, decide_eq_true_eq, hlow'', hhigh'']
    rw [beq_iff_eq] at heven
    exact ⟨fun h => ⟨h.1.le, h.2.le, fun _ => h⟩, fun h => h.odd (by omega)⟩

theorem distance_eq (num : ℕ) {den : ℕ} (hden : 0 < den) : (x.interval.distance num den : ℚ) =
    |(num : ℚ) / den - x.magnitude| * (x.interval.den * den) := by
  have hd : (0 : ℚ) < den := by exact_mod_cast hden
  have hi := x.interval_den_pos
  have hscaled : |(num : ℚ) / den - x.magnitude| * (x.interval.den * den) =
      |(num * x.interval.den : ℕ) - ((x.interval.value * den : ℕ) : ℚ)| := by
    rw [← abs_of_pos (mul_pos hi hd), ← abs_mul]
    congr 1
    push_cast
    rw [interval_value]
    field_simp
  rw [hscaled]
  unfold Interval.distance
  dsimp only
  split_ifs with h
  · have h' : ((num * x.interval.den : ℕ) : ℚ) ≤ (x.interval.value * den : ℕ) := by exact_mod_cast h
    rw [Nat.cast_sub h, abs_of_nonpos (by linarith)]
    ring
  · have h' := (not_le.1 h).le
    have h'' : ((x.interval.value * den : ℕ) : ℚ) ≤ (num * x.interval.den : ℕ) := by exact_mod_cast h'
    rw [Nat.cast_sub h', abs_of_nonneg (by linarith)]

end Interval

/-! ## The coarsest grid -/

theorem InFormat.scale_le {x : Binary64} (hx : x.InFormat) :
    (2 : ℚ) ^ 53 * 2 ^ x.exponent ≤ 2 ^ (1024 : ℤ) := by
  calc (2 : ℚ) ^ 53 * 2 ^ x.exponent ≤ 2 ^ 53 * 2 ^ (971 : ℤ) :=
        mul_le_mul_of_nonneg_left (zpow_le_zpow_right₀ one_le_two hx.exponent_le) (by positivity)
    _ = 2 ^ (1024 : ℤ) := by
        rw [← zpow_natCast, ← zpow_add₀ two_ne_zero]
        rfl

theorem InFormat.magnitude_lt {x : Binary64} (hx : x.InFormat) :
    x.magnitude < 2 ^ (1024 : ℤ) := by
  have hm : (x.mantissa : ℚ) < 2 ^ 53 := by exact_mod_cast hx.mantissa_lt
  calc x.magnitude < 2 ^ 53 * 2 ^ x.exponent := mul_lt_mul_of_pos_right hm (by positivity)
    _ ≤ 2 ^ (1024 : ℤ) := hx.scale_le

theorem InFormat.le_magnitude {x : Binary64} (hx : x.InFormat) (hm : x.mantissa ≠ 0) :
    2 ^ (-1074 : ℤ) ≤ x.magnitude := by
  have hone : (1 : ℚ) ≤ x.mantissa := by exact_mod_cast Nat.pos_of_ne_zero hm
  calc (2 : ℚ) ^ (-1074 : ℤ) ≤ 2 ^ x.exponent := zpow_le_zpow_right₀ one_le_two hx.le_exponent
    _ = 1 * 2 ^ x.exponent := (one_mul _).symm
    _ ≤ x.magnitude := mul_le_mul_of_nonneg_right hone (by positivity)

theorem floorLog10_interval {x : Binary64} (hx : x.InFormat) (hm : x.mantissa ≠ 0) :
    floorLog10 x.interval.value x.interval.den = Int.log 10 x.magnitude := by
  have hden : 0 < x.interval.den := by exact_mod_cast x.interval_den_pos
  have hq : (x.interval.value : ℚ) / x.interval.den = x.magnitude := by
    rw [interval_value, mul_div_cancel_right₀ _ x.interval_den_pos.ne']
  have hpos := magnitude_pos hm
  have hvalue : 0 < x.interval.value := by
    have : (0 : ℚ) < x.interval.value := by
      rw [interval_value]
      exact mul_pos hpos x.interval_den_pos
    exact_mod_cast this
  obtain ⟨hlow, hhigh⟩ := log2_bounds hvalue hden
  rw [hq] at hlow hhigh
  rw [floorLog10, floorLog10From_eq hvalue hden, hq]
  set l : ℤ := (x.interval.value.log2 : ℤ) - x.interval.den.log2
  rw [hq]
  -- the magnitude lies between powers of two and between powers of ten
  have htwo {a b : ℤ} (h : (2 : ℚ) ^ a < 2 ^ b) : a < b := (zpow_lt_zpow_iff_right₀ one_lt_two).1 h
  have hl₁ := htwo (hlow.trans hx.magnitude_lt)
  have hl₂ := htwo ((hx.le_magnitude hm).trans_lt hhigh)
  have hten : (10 : ℚ) ^ Int.log 10 x.magnitude ≤ x.magnitude := by
    exact_mod_cast Int.zpow_log_le_self (b := 10) (by norm_num) hpos
  have hten' : x.magnitude < (10 : ℚ) ^ (Int.log 10 x.magnitude + 1) := by
    exact_mod_cast Int.lt_zpow_succ_log_self (b := 10) (by norm_num) x.magnitude
  have h₁ := of_two_zpow_lt (hlow.trans hten')
  have h₂ : 3 * -(l + 1) < 10 * -Int.log 10 x.magnitude ∨
      28 * -(l + 1) < 93 * -Int.log 10 x.magnitude := by
    apply of_two_zpow_lt
    rw [zpow_neg, zpow_neg]
    exact inv_strictAnti₀ (by positivity) (hten.trans_lt hhigh)
  rw [abs_le]
  constructor <;> push_cast <;> omega

/-- The point `n` of a grid rounds to `x`, and none that does is nearer to it. -/
structure IsNearestOn (x : Binary64) (k : ℤ) (n : ℕ) : Prop where
  rounds : x.Rounds (n * 10 ^ k)
  nearest : ∀ l : ℕ, x.Rounds (l * 10 ^ k) → |n * 10 ^ k - x.magnitude| ≤ |l * 10 ^ k - x.magnitude|
  even : ∀ l : ℕ, x.Rounds (l * 10 ^ k) → l ≠ n →
    |l * 10 ^ k - x.magnitude| = |n * 10 ^ k - x.magnitude| → n % 2 = 0

section Grid

variable {x : Binary64} {k : ℤ} {f : ℕ}
  (hlow : (f : ℚ) * 10 ^ k ≤ x.magnitude) (hhigh : x.magnitude < ((f + 1 : ℕ) : ℚ) * 10 ^ k)

include hlow hhigh

/-- A point of the grid that rounds to the number is as far as the neighbour on its side, and
farther if it is not that neighbour. -/
theorem neighbour {l : ℕ} (h : x.Rounds (l * 10 ^ k)) :
    (x.Rounds (f * 10 ^ k) ∧ |f * 10 ^ k - x.magnitude| ≤ |l * 10 ^ k - x.magnitude| ∧
      (l ≠ f → |f * 10 ^ k - x.magnitude| < |l * 10 ^ k - x.magnitude|)) ∨
    (x.Rounds ((f + 1 : ℕ) * 10 ^ k) ∧
      |(f + 1 : ℕ) * 10 ^ k - x.magnitude| ≤ |l * 10 ^ k - x.magnitude| ∧
      (l ≠ f + 1 → |(f + 1 : ℕ) * 10 ^ k - x.magnitude| < |l * 10 ^ k - x.magnitude|)) := by
  have hscale : (0 : ℚ) < 10 ^ k := by positivity
  have hmono {a b : ℕ} (h : a ≤ b) : (a : ℚ) * 10 ^ k ≤ b * 10 ^ k :=
    mul_le_mul_of_nonneg_right (by exact_mod_cast h) hscale.le
  have hmono' {a b : ℕ} (h : a < b) : (a : ℚ) * 10 ^ k < b * 10 ^ k :=
    mul_lt_mul_of_pos_right (by exact_mod_cast h) hscale
  rcases Nat.lt_or_ge f l with hlt | hle
  · have hl := hmono hlt
    refine Or.inr ⟨x.rounds_magnitude.between h hhigh.le hl, ?_, fun hne => ?_⟩
    · rw [abs_of_nonneg (by linarith), abs_of_nonneg (by linarith)]
      linarith
    · have := hmono' (lt_of_le_of_ne hlt (Ne.symm hne))
      rw [abs_of_nonneg (by linarith), abs_of_nonneg (by linarith)]
      linarith
  · have hl := hmono hle
    refine Or.inl ⟨h.between x.rounds_magnitude hl hlow, ?_, fun hne => ?_⟩
    · rw [abs_of_nonpos (by linarith), abs_of_nonpos (by linarith)]
      linarith
    · have := hmono' (lt_of_le_of_ne hle hne)
      rw [abs_of_nonpos (by linarith), abs_of_nonpos (by linarith)]
      linarith

theorem isNearestOn_left (hf : x.Rounds (f * 10 ^ k))
    (hright : x.Rounds ((f + 1 : ℕ) * 10 ^ k) →
      |f * 10 ^ k - x.magnitude| < |(f + 1 : ℕ) * 10 ^ k - x.magnitude| ∨
      |f * 10 ^ k - x.magnitude| = |(f + 1 : ℕ) * 10 ^ k - x.magnitude| ∧ f % 2 = 0) :
    x.IsNearestOn k f := by
  refine ⟨hf, fun l hl => ?_, fun l hl hne heq => ?_⟩
  · obtain ⟨-, hle, -⟩ | ⟨hr, hle, -⟩ := neighbour hlow hhigh hl
    · exact hle
    · obtain hlt | ⟨heq, -⟩ := hright hr <;> linarith
  · obtain ⟨-, -, hlt⟩ | ⟨hr, hle, -⟩ := neighbour hlow hhigh hl
    · exact absurd heq (hlt hne).ne'
    · obtain hlt | ⟨-, heven⟩ := hright hr
      · linarith
      · exact heven

theorem isNearestOn_right (hf : x.Rounds ((f + 1 : ℕ) * 10 ^ k))
    (hleft : x.Rounds (f * 10 ^ k) →
      |(f + 1 : ℕ) * 10 ^ k - x.magnitude| < |f * 10 ^ k - x.magnitude| ∨
      |(f + 1 : ℕ) * 10 ^ k - x.magnitude| = |f * 10 ^ k - x.magnitude| ∧ (f + 1) % 2 = 0) :
    x.IsNearestOn k (f + 1) := by
  refine ⟨hf, fun l hl => ?_, fun l hl hne heq => ?_⟩
  · obtain ⟨hr, hle, -⟩ | ⟨-, hle, -⟩ := neighbour hlow hhigh hl
    · obtain hlt | ⟨heq, -⟩ := hleft hr <;> linarith
    · exact hle
  · obtain ⟨hr, hle, -⟩ | ⟨-, -, hlt⟩ := neighbour hlow hhigh hl
    · obtain hlt | ⟨-, heven⟩ := hleft hr
      · linarith
      · exact heven
    · exact absurd heq (hlt hne).ne'

end Grid

theorem contains_grid {x : Binary64} (hm : x.mantissa ≠ 0) (k : ℤ) (n : ℕ) :
    x.interval.contains (n * tenTo k.toNat) (tenTo (-k).toNat) = true ↔ x.Rounds (n * 10 ^ k) := by
  have hden : 0 < tenTo (-k).toNat := Nat.pow_pos (by decide)
  rw [contains_iff hm _ hden, tenTo_div]

theorem distance_grid (x : Binary64) (k : ℤ) (m n : ℕ) :
    x.interval.distance (m * tenTo k.toNat) (tenTo (-k).toNat) <
        x.interval.distance (n * tenTo k.toNat) (tenTo (-k).toNat) ↔
      |m * 10 ^ k - x.magnitude| < |n * 10 ^ k - x.magnitude| := by
  have hden : 0 < tenTo (-k).toNat := Nat.pow_pos (by decide)
  rw [← mul_lt_mul_iff_of_pos_right (mul_pos x.interval_den_pos (tenTo_pos (-k).toNat)),
    ← tenTo_div, ← tenTo_div, ← distance_eq _ hden, ← distance_eq _ hden]
  norm_cast

/-- The number lies between a point of the grid and the next one. -/
theorem floor_grid (x : Binary64) (k : ℤ) {f : ℕ}
    (hf : f = (x.interval.value * tenTo (-k).toNat) / (x.interval.den * tenTo k.toNat)) :
    (f : ℚ) * 10 ^ k ≤ x.magnitude ∧ x.magnitude < ((f + 1 : ℕ) : ℚ) * 10 ^ k := by
  have hi := x.interval_den_pos
  have hpos : 0 < x.interval.den * tenTo k.toNat :=
    Nat.mul_pos (by exact_mod_cast hi) (Nat.pow_pos (by decide))
  -- both sides over the common denominator
  have hscaled (n : ℕ) : ((n * (x.interval.den * tenTo k.toNat) : ℕ) : ℚ) =
      n * 10 ^ k * (x.interval.den * tenTo (-k).toNat) := by
    push_cast
    rw [tenTo_toNat k]
    ring
  have hvalue : ((x.interval.value * tenTo (-k).toNat : ℕ) : ℚ) =
      x.magnitude * (x.interval.den * tenTo (-k).toNat) := by
    push_cast
    rw [interval_value]
    ring
  have hscale := mul_pos hi (tenTo_pos (-k).toNat)
  constructor
  · rw [← mul_le_mul_iff_of_pos_right hscale, ← hscaled, ← hvalue, hf]
    exact_mod_cast Nat.div_mul_le_self _ _
  · rw [← mul_lt_mul_iff_of_pos_right hscale, ← hscaled, ← hvalue, hf]
    exact_mod_cast Nat.lt_mul_of_div_lt (Nat.lt_succ_self _) hpos

/-- A grid gives its nearest point that rounds to the number. -/
theorem onGrid?_spec {x : Binary64} (hm : x.mantissa ≠ 0) (k : ℤ) :
    (∃ n, x.interval.onGrid? k = some ⟨n, k⟩ ∧ x.IsNearestOn k n) ∨
      (x.interval.onGrid? k = none ∧ ∀ n : ℕ, ¬ x.Rounds (n * 10 ^ k)) := by
  have hinside := contains_grid hm k
  have hdistance := x.distance_grid k
  set f := (x.interval.value * tenTo (-k).toNat) / (x.interval.den * tenTo k.toNat) with hf
  obtain ⟨hlow, hhigh⟩ := x.floor_grid k hf
  generalize hsides : x.interval.onGrid? k = r
  unfold Interval.onGrid? at hsides
  dsimp only at hsides
  rw [← hf] at hsides
  split at hsides
  · rename_i hl hr
    rw [hinside] at hl hr
    split_ifs at hsides with h₁ h₂ heven
    all_goals rw [hdistance] at h₁
    · exact Or.inl ⟨f, hsides.symm, isNearestOn_left hlow hhigh hl fun _ => Or.inl h₁⟩
    · rw [hdistance] at h₂
      exact Or.inl ⟨f + 1, hsides.symm, isNearestOn_right hlow hhigh hr fun _ => Or.inl h₂⟩
    all_goals
      rw [hdistance] at h₂
      have heq := le_antisymm (not_lt.1 h₂) (not_lt.1 h₁)
    · exact Or.inl ⟨f, hsides.symm, isNearestOn_left hlow hhigh hl fun _ => Or.inr ⟨heq, heven⟩⟩
    · exact Or.inl ⟨f + 1, hsides.symm,
        isNearestOn_right hlow hhigh hr fun _ => Or.inr ⟨heq.symm, by omega⟩⟩
  · rename_i hl hr
    rw [hinside] at hl
    rw [← Bool.not_eq_true, hinside] at hr
    exact Or.inl ⟨f, hsides.symm, isNearestOn_left hlow hhigh hl fun h => absurd h hr⟩
  · rename_i hl hr
    rw [hinside] at hr
    rw [← Bool.not_eq_true, hinside] at hl
    exact Or.inl ⟨f + 1, hsides.symm, isNearestOn_right hlow hhigh hr fun h => absurd h hl⟩
  · rename_i hl hr
    rw [← Bool.not_eq_true, hinside] at hl hr
    refine Or.inr ⟨hsides.symm, fun n hn => ?_⟩
    obtain ⟨h, -⟩ | ⟨h, -⟩ := neighbour hlow hhigh hn
    · exact hl h
    · exact hr h

theorem firstGrid_spec {x : Binary64} (hm : x.mantissa ≠ 0) {top : ℤ} {fuel count : ℕ}
    (h : ∃ j < fuel, ∃ n : ℕ, x.Rounds (n * 10 ^ (top + 1 - (count + j : ℕ)))) :
    x.IsNearestOn (x.interval.firstGrid top count fuel).exponent
        (x.interval.firstGrid top count fuel).digits ∧
      ∀ k ≤ top + 1 - count, (x.interval.firstGrid top count fuel).exponent < k →
        ∀ n : ℕ, ¬ x.Rounds (n * 10 ^ k) := by
  induction fuel generalizing count with
  | zero => exact absurd h.choose_spec.1 (Nat.not_lt_zero _)
  | succ fuel ih =>
    obtain ⟨n, hsome, hn⟩ | ⟨hnone, hn⟩ := onGrid?_spec hm (top + 1 - count)
    · have hdigits : n ≠ 0 := by
        rintro rfl
        have := hn.rounds.pos hm
        norm_num at this
      rw [Interval.firstGrid, hsome]
      dsimp only
      rw [if_neg hdigits]
      exact ⟨hn, fun k hk hlt => absurd hlt (not_lt.2 hk)⟩
    · rw [Interval.firstGrid, hnone]
      obtain ⟨j, hj, m, hm'⟩ := h
      cases j with
      | zero => exact absurd hm' (hn m)
      | succ j =>
        have hrest : ∃ j < fuel, ∃ n : ℕ, x.Rounds (n * 10 ^ (top + 1 - (count + 1 + j : ℕ))) :=
          ⟨j, Nat.lt_of_succ_lt_succ hj, m, by rwa [Nat.succ_add_eq_add_succ]⟩
        obtain ⟨hnearest, hcoarse⟩ := ih hrest
        refine ⟨hnearest, fun k hk hlt => ?_⟩
        rcases eq_or_lt_of_le hk with rfl | hk'
        · exact hn
        · exact hcoarse k (by push_cast; omega) hlt

/-! ## The shortest decimal -/

/-- The nearest point that rounds to `x` on the coarsest grid that has one; the grids end at the
power of ten of the first digit of `x`. -/
structure IsShortest (x : Binary64) (d : Decimal) : Prop where
  isNearestOn : x.IsNearestOn d.exponent d.digits
  coarsest : ∀ k ≤ Int.log 10 x.magnitude, d.exponent < k → ∀ q, OnGrid k q → ¬ x.Rounds q

theorem isShortest_shortest {x : Binary64} (hx : x.InFormat) (hm : x.mantissa ≠ 0) :
    x.IsShortest x.shortest := by
  have hpos := magnitude_pos hm
  set top := Int.log 10 x.magnitude with htop
  -- at twenty digits the grid is finer than the interval
  have hfine : (10 : ℚ) ^ (top - 19) < 2 ^ x.exponent / 4 := by
    have hten : (10 : ℚ) ^ top ≤ x.magnitude := by
      exact_mod_cast Int.zpow_log_le_self (b := 10) (by norm_num) hpos
    have hmantissa : (x.mantissa : ℚ) < 2 ^ 53 := by exact_mod_cast hx.mantissa_lt
    have hlt : x.magnitude < 2 ^ 53 * 2 ^ x.exponent :=
      mul_lt_mul_of_pos_right hmantissa (by positivity)
    rw [zpow_sub₀ (by norm_num), div_lt_iff₀ (by positivity)]
    norm_num
    linarith
  have hexists : ∃ j < 20, ∃ n : ℕ, x.Rounds (n * 10 ^ (top + 1 - (1 + j : ℕ))) := by
    have hunit : (0 : ℚ) < 10 ^ (top - 19) := by positivity
    have hbelow : (1 : ℚ) ≤ x.quartersBelow := by
      unfold quartersBelow
      split_ifs <;> norm_num
    have hfloor := Nat.floor_le (div_nonneg hpos.le hunit.le)
    have hfloor' := Nat.lt_floor_add_one (x.magnitude / 10 ^ (top - 19))
    rw [le_div_iff₀ hunit] at hfloor
    rw [div_lt_iff₀ hunit, add_mul, one_mul] at hfloor'
    refine ⟨19, by decide, ⌊x.magnitude / 10 ^ (top - 19)⌋₊, ?_⟩
    have htwo : (0 : ℚ) < 2 ^ x.exponent := by positivity
    have hlow : (x.mantissa - x.quartersBelow / 4 : ℚ) * 2 ^ x.exponent <
        ⌊x.magnitude / 10 ^ (top - 19)⌋₊ * 10 ^ (top - 19) := by
      have hmul : (1 : ℚ) * 2 ^ x.exponent ≤ x.quartersBelow * 2 ^ x.exponent :=
        mul_le_mul_of_nonneg_right hbelow htwo.le
      have : x.magnitude = x.mantissa * 2 ^ x.exponent := rfl
      linarith
    have hunit' : top + 1 - ((1 + 19 : ℕ) : ℤ) = top - 19 := by push_cast; ring
    rw [hunit']
    have hmag := x.rounds_magnitude
    have hlt : x.magnitude < (x.mantissa + 1 / 2 : ℚ) * 2 ^ x.exponent :=
      mul_lt_mul_of_pos_right (by linarith) htwo
    exact ⟨hlow.le, hfloor.trans hmag.high, fun _ => ⟨hlow, hfloor.trans_lt hlt⟩⟩
  have hshortest : x.shortest = x.interval.firstGrid top 1 20 := by
    rw [shortest, if_neg (by simpa [isZero] using hm), htop, ← floorLog10_interval hx hm]
  obtain ⟨hnearest, hcoarse⟩ := firstGrid_spec hm hexists
  rw [← hshortest] at hnearest hcoarse
  refine ⟨hnearest, fun k hk hlt q hq => ?_⟩
  obtain ⟨n, rfl⟩ := hq
  exact hcoarse k (by push_cast; omega) hlt n

/-- **The shortest decimal reads back.** -/
theorem rounds_shortest {x : Binary64} (hx : x.InFormat) (hm : x.mantissa ≠ 0) :
    x.Rounds x.shortest.value := (isShortest_shortest hx hm).isNearestOn.rounds

theorem shortest_digits_ne_zero {x : Binary64} (hx : x.InFormat) (hm : x.mantissa ≠ 0) :
    x.shortest.digits ≠ 0 := by
  intro hzero
  have := (rounds_shortest hx hm).pos hm
  rw [Decimal.value, hzero, Nat.cast_zero, zero_mul] at this
  exact this.false

end Binary64

end LoginGate.Number
