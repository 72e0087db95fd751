import LoginGate.Number.Reading
import LoginGate.Proofs.Number.Positional
import LoginGate.Proofs.Text.Runs

/-!
# Written numbers are read back

`scientificText` puts a number down as digits on both sides of a point with a power of ten behind
them, and at least one of the point and the power is there (`Spells`).  Reading rounds the value of
such a text once, and the shortest digits round to the number that they were made from:

    x.scientificText range = x.signText ++ spelled before after power,   where reading what follows
    the sign gives x                                                          (scientificText_spells)
-/

namespace LoginGate.Number

open LoginGate.Text

/-! ## Decimals -/

/-- A numeral of so many digits lies between two powers of ten. -/
theorem toDigits_bounds {n : ℕ} (h : n ≠ 0) :
    (10 : ℚ) ^ ((Nat.toDigits 10 n).length - 1 : ℤ) ≤ n ∧
      (n : ℚ) < 10 ^ ((Nat.toDigits 10 n).length : ℤ) := by
  have hpos : 0 < (Nat.toDigits 10 n).length := Nat.length_toDigits_pos
  set size := (Nat.toDigits 10 n).length with hsize
  have hle : 10 ^ (size - 1) ≤ n := by
    by_contra hlt
    rcases Nat.eq_zero_or_pos (size - 1) with hone | hmore
    · rw [hone] at hlt
      omega
    · have := (Nat.length_toDigits_le_iff (b := 10) (by decide) hmore).2 (not_le.1 hlt)
      omega
  have hlt : n < 10 ^ size := (Nat.length_toDigits_le_iff (by decide) hpos).1 le_rfl
  rw [show (size - 1 : ℤ) = ((size - 1 : ℕ) : ℤ) by omega, zpow_natCast, zpow_natCast]
  exact ⟨by exact_mod_cast hle, by exact_mod_cast hlt⟩

/-- What rounds to a number of the format lies between powers of two. -/
theorem Binary64.Rounds.bounds {x : Binary64} (hx : x.InFormat) (hm : x.mantissa ≠ 0) {q : ℚ}
    (h : x.Rounds q) : (2 : ℚ) ^ (-1075 : ℤ) ≤ q ∧ q < 2 ^ (1024 : ℤ) := by
  constructor
  · have hone : (1 : ℚ) ≤ x.mantissa := by exact_mod_cast Nat.pos_of_ne_zero hm
    have hbelow := x.quartersBelow_le
    have hexponent : (-1074 : ℤ) ≤ x.exponent := hx.le_exponent
    calc (2 : ℚ) ^ (-1075 : ℤ) ≤ 2 ^ (x.exponent - 1) :=
          zpow_le_zpow_right₀ one_le_two (by omega)
      _ = 1 / 2 * 2 ^ x.exponent := by
          rw [zpow_sub_one₀ two_ne_zero]
          ring
      _ ≤ (x.mantissa - x.quartersBelow / 4 : ℚ) * 2 ^ x.exponent :=
          mul_le_mul_of_nonneg_right (by linarith) (by positivity)
      _ ≤ q := h.low
  · have hmantissa : (x.mantissa : ℚ) + 1 ≤ 2 ^ 53 := by exact_mod_cast hx.mantissa_lt
    calc q ≤ (x.mantissa + 1 / 2 : ℚ) * 2 ^ x.exponent := h.high
      _ < 2 ^ 53 * 2 ^ x.exponent := mul_lt_mul_of_pos_right (by linarith) (by positivity)
      _ ≤ 2 ^ (1024 : ℤ) := hx.scale_le

/-- The digits of a decimal are read to the number that its value rounds to. -/
theorem Extended.ofDecimal_of_rounds {x : Binary64} (hx : x.InFormat) (hm : x.mantissa ≠ 0)
    {digits : ℕ} {exponent : ℤ} (h : x.Rounds (digits * 10 ^ exponent)) :
    Extended.ofDecimal x.negative digits exponent = .finite x := by
  have hdigits : digits ≠ 0 := by
    rintro rfl
    have := h.pos hm
    simp at this
  have hscale : (0 : ℚ) < 10 ^ exponent := by positivity
  obtain ⟨hlow, hhigh⟩ := toDigits_bounds hdigits
  obtain ⟨htwo, htwo'⟩ := h.bounds hx hm
  -- neither guard against large powers of ten is met by a number of the format
  have hsmall : ¬ ((Nat.toDigits 10 digits).length : ℤ) + exponent < -400 := by
    have hlt : (2 : ℚ) ^ (-1075 : ℤ) < 10 ^ ((Nat.toDigits 10 digits).length + exponent : ℤ) := by
      rw [zpow_add₀ (by norm_num)]
      exact htwo.trans_lt (mul_lt_mul_of_pos_right hhigh hscale)
    have := Binary64.of_two_zpow_lt hlt
    omega
  have hlarge : ¬ 400 < ((Nat.toDigits 10 digits).length : ℤ) + exponent := by
    have hlt : (10 : ℚ) ^ ((Nat.toDigits 10 digits).length - 1 + exponent : ℤ) < 2 ^ (1024 : ℤ) := by
      rw [zpow_add₀ (by norm_num)]
      exact (mul_le_mul_of_nonneg_right hlow hscale.le).trans_lt htwo'
    have hinv : (2 : ℚ) ^ (-1024 : ℤ) <
        10 ^ (-((Nat.toDigits 10 digits).length - 1 + exponent) : ℤ) := by
      rw [zpow_neg, zpow_neg]
      exact inv_strictAnti₀ (by positivity) hlt
    have := Binary64.of_two_zpow_lt hinv
    omega
  have hread : Binary64.ofDecimal x.negative digits exponent = some x := by
    have hnum : 0 < digits * tenTo exponent.toNat :=
      Nat.mul_pos (Nat.pos_of_ne_zero hdigits) (Nat.pow_pos (by decide))
    have hden : 0 < tenTo (-exponent).toNat := Nat.pow_pos (by decide)
    rw [← tenTo_div] at h
    exact (Binary64.ofRatio_eq_some_iff hnum hden).2 ⟨rfl, hx, h⟩
  unfold Extended.ofDecimal
  dsimp only
  rw [if_neg (not_or.2 ⟨hdigits, hsmall⟩), if_neg hlarge, hread]

theorem Binary64.InFormat.eq_zero {x : Binary64} (hx : x.InFormat) (hm : x.mantissa = 0) :
    x = zero x.negative := by
  have hexponent : x.exponent = minExponent := hx.full.resolve_left (by rw [hm]; norm_num)
  calc x = ⟨x.negative, x.mantissa, x.exponent⟩ := rfl
    _ = zero x.negative := by rw [hm, hexponent, zero]

/-! ## Fractions with a power of ten -/

/-- Digits on both sides of a point, without the point where none follow it, and a power of ten. -/
def spelled (before after power : List Char) : List Char :=
  before ++ (if after = [] then [] else '.' :: after) ++ power

/-- A written power of ten, or nothing. -/
def IsPower (s : List Char) : Prop :=
  s = [] ∨ ∃ sign n, (sign = '+' ∨ sign = '-') ∧ s = 'e' :: sign :: decimal n

theorem IsPower.endsRun {s : List Char} (h : IsPower s) : EndsRun isDigit s := by
  obtain rfl | ⟨sign, n, -, rfl⟩ := h
  · exact endsRun_nil
  · exact endsRun_cons rfl _

theorem readFraction?_spelled {before after power : List Char} (hne : before ≠ [])
    (hdigits : ∀ c ∈ before ++ after, isDigit c = true) (hpower : IsPower power) (negative : Bool) :
    readFraction? negative (spelled before after power) = (readPowerPart? power).map fun p =>
      Extended.ofDecimal negative (Nat.ofDigitChars 10 (before ++ after) 0) (p - after.length) := by
  have hbefore : ∀ c ∈ before, isDigit c = true := fun c hc =>
    hdigits c (List.mem_append_left _ hc)
  have hafter : ∀ c ∈ after, isDigit c = true := fun c hc => hdigits c (List.mem_append_right _ hc)
  have hends : EndsRun isDigit ((if after = [] then [] else '.' :: after) ++ power) := by
    split_ifs with h
    · exact hpower.endsRun
    · exact endsRun_cons rfl _
  have hall : before ++ after ≠ [] := List.append_ne_nil_of_left_ne_nil hne _
  obtain ⟨c, before, rfl⟩ := List.exists_cons_of_ne_nil hne
  let read (fraction tail : List Char) : Option Extended :=
    (decimalValue? (c :: before ++ fraction)).bind fun value => (readPowerPart? tail).bind fun p =>
      some (Extended.ofDecimal negative value (p - fraction.length))
  have hread : readFraction? negative (spelled (c :: before) after power) = read after power := by
    unfold readFraction? spelled
    dsimp only
    rw [List.append_assoc, takeWhile_run hbefore hends, dropWhile_run hbefore hends]
    cases after with
    | nil =>
      rw [if_pos rfl]
      obtain rfl | ⟨sign, n, -, rfl⟩ := hpower <;> rfl
    | cons d after =>
      rw [if_neg (List.cons_ne_nil d after)]
      refine Eq.trans (b := read ((d :: after ++ power).takeWhile isDigit)
        ((d :: after ++ power).dropWhile isDigit)) rfl ?_
      rw [takeWhile_run hafter hpower.endsRun, dropWhile_run hafter hpower.endsRun]
  rw [hread]
  dsimp only [read]
  rw [decimalValue?_digits hall hdigits]
  cases readPowerPart? power <;> rfl

/-- A number is written without its sign, and reads back. -/
structure Spells (x : Binary64) (before after power : List Char) : Prop where
  ne_nil : before ≠ []
  digits : ∀ c ∈ before ++ after, isDigit c = true
  isPower : IsPower power
  marked : after ≠ [] ∨ power ≠ []
  read : readFraction? x.negative (spelled before after power) = some (.finite x)

section

variable {x : Binary64} {before after power : List Char} (h : Spells x before after power)

include h

theorem Spells.head? : ∃ c rest, spelled before after power = c :: rest ∧ isDigit c = true := by
  obtain ⟨c, before, rfl⟩ := List.exists_cons_of_ne_nil h.ne_nil
  exact ⟨c, _, rfl, h.digits c List.mem_cons_self⟩

theorem Spells.mem {c : Char} (hc : c ∈ spelled before after power) :
    isDigit c = true ∨ c ∈ ['.', 'e', '+', '-'] := by
  have hdigit := h.digits
  rw [spelled, List.mem_append, List.mem_append] at hc
  obtain (hc | hc) | hc := hc
  · exact Or.inl (hdigit c (List.mem_append_left _ hc))
  · split_ifs at hc
    · cases hc
    · obtain rfl | hc := List.mem_cons.1 hc
      · exact Or.inr (by decide)
      · exact Or.inl (hdigit c (List.mem_append_right _ hc))
  · obtain rfl | ⟨sign, n, hsign, rfl⟩ := h.isPower
    · cases hc
    · obtain rfl | hc := List.mem_cons.1 hc
      · exact Or.inr (by decide)
      · obtain rfl | hc := List.mem_cons.1 hc
        · obtain rfl | rfl := hsign <;> exact Or.inr (by decide)
        · exact Or.inl (isDigit_of_mem_decimal hc)

/-- There is a point or a power of ten. -/
theorem Spells.exists_not_isDigit : ∃ c ∈ spelled before after power, isDigit c = false := by
  obtain hafter | hpower := h.marked
  · refine ⟨'.', ?_, rfl⟩
    simp [spelled, hafter]
  · obtain rfl | ⟨sign, n, -, rfl⟩ := h.isPower
    · exact absurd rfl hpower
    · refine ⟨'e', ?_, rfl⟩
      simp [spelled]

end

namespace Binary64

/-- A positional text has a point. -/
theorem spells_positional {x : Binary64} (hx : x.InFormat) (hm : x.mantissa ≠ 0)
    {before after : List Char} (h : Writes x.shortest.value before after) :
    ∃ after', Spells x before after' [] ∧
      before ++ (if after = [] then ['.', '0'] else '.' :: after) = spelled before after' [] := by
  have hrounds := rounds_shortest hx hm
  have hread {after' : List Char} (hdigits : ∀ c ∈ before ++ after', isDigit c = true)
      (hvalue : numeralValue before after' = x.shortest.value) :
      readFraction? x.negative (spelled before after' []) = some (.finite x) := by
    rw [readFraction?_spelled h.ne_nil hdigits (Or.inl rfl)]
    refine congrArg some (Extended.ofDecimal_of_rounds hx hm ?_)
    rwa [zero_sub, zpow_neg, zpow_natCast, ← div_eq_mul_inv, ← numeralValue, hvalue]
  by_cases hafter : after = []
  · subst hafter
    have hdigits : ∀ c ∈ before ++ ['0'], isDigit c = true := fun c hc => by
      obtain hc | hc := List.mem_append.1 hc
      · exact h.isDigit c (List.mem_append_left _ hc)
      · rw [List.mem_singleton.1 hc]
        rfl
    refine ⟨['0'], ⟨h.ne_nil, hdigits, Or.inl rfl, Or.inl (List.cons_ne_nil _ _),
      hread hdigits ?_⟩, ?_⟩
    · rw [← h.value, numeralValue, numeralValue, show ['0'] = List.replicate 1 '0' from rfl,
        ofDigitChars_zeros, List.append_nil]
      simp
    · simp [spelled]
  · refine ⟨after, ⟨h.ne_nil, h.isDigit, Or.inl rfl, Or.inl hafter, hread h.isDigit h.value⟩, ?_⟩
    rw [spelled, if_neg hafter, if_neg hafter, List.append_nil]

theorem readPowerPart?_signed (power : ℤ) :
    readPowerPart? ('e' :: (if power < 0 then '-' else '+') :: decimal power.natAbs) =
      some power := by
  have hread (sign : Char) : readPowerPart? ('e' :: sign :: decimal power.natAbs) =
      readPower? (sign :: decimal power.natAbs) := rfl
  rw [hread]
  by_cases hneg : power < 0
  · have hsigned : signed ('-' :: decimal power.natAbs) = (true, decimal power.natAbs) := rfl
    rw [if_pos hneg, readPower?, hsigned]
    dsimp only
    rw [decimalValue?_decimal]
    exact congrArg some (show -(power.natAbs : ℤ) = power by omega)
  · have hsigned : signed ('+' :: decimal power.natAbs) = (false, decimal power.natAbs) := rfl
    rw [if_neg hneg, readPower?, hsigned]
    dsimp only
    rw [decimalValue?_decimal]
    exact congrArg some (show (power.natAbs : ℤ) = power by omega)

/-- The shortest digits with a power of ten behind them. -/
theorem spells_leading {x : Binary64} (hx : x.InFormat) (hm : x.mantissa ≠ 0) {digits : List Char}
    {power : ℤ} (h : Leads x.shortest.value digits power) :
    Spells x (digits.take 1) (digits.drop 1)
      ('e' :: (if power < 0 then '-' else '+') :: decimal power.natAbs) := by
  have hpower : IsPower ('e' :: (if power < 0 then '-' else '+') :: decimal power.natAbs) := by
    refine Or.inr ⟨_, _, ?_, rfl⟩
    split_ifs
    · exact Or.inr rfl
    · exact Or.inl rfl
  have hne : digits.take 1 ≠ [] := by
    rw [Ne, List.take_eq_nil_iff]
    exact not_or.2 ⟨one_ne_zero, h.ne_nil⟩
  have hdigits : ∀ c ∈ digits.take 1 ++ digits.drop 1, isDigit c = true := by
    rw [List.take_append_drop]
    exact h.isDigit
  refine ⟨hne, hdigits, hpower, Or.inr (List.cons_ne_nil _ _), ?_⟩
  rw [readFraction?_spelled hne hdigits hpower, readPowerPart?_signed, Option.map_some,
    List.take_append_drop]
  refine congrArg some (Extended.ofDecimal_of_rounds hx hm ?_)
  have hlength : 0 < digits.length := List.length_pos_of_ne_nil h.ne_nil
  have hexponent : power - (digits.drop 1).length = power + 1 - digits.length := by
    rw [List.length_drop]
    omega
  rw [hexponent, h.value]
  exact rounds_shortest hx hm

/-- **What is written of a number is read back.** -/
theorem scientificText_spells {x : Binary64} (hx : x.InFormat) (range : PositionalRange) :
    ∃ before after power, Spells x before after power ∧
      x.scientificText range = x.signText ++ spelled before after power := by
  by_cases hm : x.mantissa = 0
  · have hzero : x.isZero = true := beq_iff_eq.2 hm
    have hform : x.leadingForm = (['0'], 0) := by
      rw [leadingForm, shortest, if_pos hzero]
      rfl
    have hread : readFraction? x.negative (spelled ['0'] ['0'] []) = some (.finite x) := by
      rw [hx.eq_zero hm]
      rfl
    refine ⟨['0'], ['0'], [], ⟨List.cons_ne_nil _ _, List.all_eq_true.1 rfl,
      Or.inl rfl, Or.inl (List.cons_ne_nil _ _), hread⟩, ?_⟩
    rw [scientificText, hform]
    dsimp only
    rw [if_pos (Or.inl hzero)]
    rfl
  · have hleads := leads_leadingForm (shortest_digits_ne_zero hx hm)
    by_cases hrange : x.isZero = true ∨ range.low ≤ x.leadingForm.2 ∧ x.leadingForm.2 < range.high
    · obtain ⟨before, after, hwrites, htext⟩ := positional_eq hleads ['.', '0']
      obtain ⟨after', hspells, heq⟩ := spells_positional hx hm hwrites
      refine ⟨before, after', [], hspells, ?_⟩
      rw [scientificText]
      dsimp only
      rw [if_pos hrange, htext, heq]
    · refine ⟨_, _, _, spells_leading hx hm hleads, ?_⟩
      rw [scientificText]
      dsimp only
      rw [if_neg hrange, spelled]
      split
      · rename_i hnil
        rw [hnil, if_pos rfl]
      · rename_i hne
        rw [if_neg hne]

end Binary64

end LoginGate.Number
