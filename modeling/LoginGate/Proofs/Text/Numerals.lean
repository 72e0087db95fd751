import LoginGate.Number.Reading
import Mathlib.Data.List.Basic

/-!
# Numerals, written and read

    decimalValue? (decimal n) = some n                                (decimalValue?_decimal)
    digitsFrom? base 0 ((Nat.toDigits base n).map letter) = some n    (digitsFrom?_toDigits)

A numeral holds digits only, at least one, and begins with zero only if it is zero.
-/

namespace LoginGate.Text

theorem toList_repr (n : Nat) : n.repr.toList = decimal n := by
  rw [Nat.repr_eq_ofList_toDigits, String.toList_ofList]
  rfl

theorem isDigit_of_mem_decimal {n : Nat} {c : Char} (h : c ∈ decimal n) : isDigit c = true :=
  Nat.isDigit_of_mem_toDigits (by decide) (by decide) h

/-- What holds of characters with small code points is checked number by number. -/
theorem of_forall_lt {P : Char → Prop} {k : Nat} (h : ∀ n < k, P (Char.ofNat n)) {c : Char}
    (hc : c.toNat < k) : P c := by
  have := h c.toNat hc
  rwa [Char.ofNat_toNat] at this

theorem lt_of_isDigit {c : Char} (h : isDigit c = true) : c.toNat < 58 := by
  rw [isDigit, Bool.and_eq_true, decide_eq_true_eq, decide_eq_true_eq] at h
  exact Nat.lt_succ_of_le h.2

theorem not_mem_of_digits {s : List Char} (h : ∀ c ∈ s, isDigit c = true) {c : Char}
    (hc : isDigit c = false) : c ∉ s := fun hmem => Bool.false_ne_true (hc.symm.trans (h c hmem))

theorem ne_of_digits {s : List Char} (h : ∀ c ∈ s, isDigit c = true) {w : List Char}
    (hw : w.any (fun c => !isDigit c) = true) : s ≠ w := by
  rintro rfl
  obtain ⟨c, hc, hnot⟩ := List.any_eq_true.1 hw
  exact not_mem_of_digits h (by simpa using hnot) hc

theorem signed_digits {s : List Char} (h : ∀ c ∈ s, isDigit c = true) :
    Number.signed s = (false, s) := by
  unfold Number.signed
  split
  · exact absurd List.mem_cons_self (not_mem_of_digits h (by decide : isDigit '-' = false))
  · exact absurd List.mem_cons_self (not_mem_of_digits h (by decide : isDigit '+' = false))
  · rfl

theorem decimal_ne_nil (n : Nat) : decimal n ≠ [] := Nat.toDigits_ne_nil

theorem digitValue?_of_isDigit {c : Char} (h : isDigit c = true) :
    (digitValue? c).filter (· < 10) = some (c.toNat - 48) := by
  rw [isDigit, Bool.and_eq_true, decide_eq_true_eq, decide_eq_true_eq] at h
  have hvalue : digitValue? c = some (c.toNat - 48) := if_pos h
  rw [hvalue, Option.filter_some, if_pos]
  rw [decide_eq_true_eq]
  omega

theorem isDigit_of_digitValue? {c : Char} {d : Nat}
    (h : (digitValue? c).filter (· < 10) = some d) : isDigit c = true := by
  rw [Option.filter_eq_some_iff, decide_eq_true_eq] at h
  obtain ⟨hvalue, hlt⟩ := h
  unfold digitValue? at hvalue
  dsimp only at hvalue
  rw [isDigit, Bool.and_eq_true, decide_eq_true_eq, decide_eq_true_eq]
  split at hvalue
  · assumption
  · split at hvalue
    · have := Option.some.inj hvalue
      omega
    · split at hvalue
      · have := Option.some.inj hvalue
        omega
      · cases hvalue

theorem isDigit_of_digitsFrom? {s : List Char} {n m : Nat} (h : digitsFrom? 10 n s = some m) :
    ∀ c ∈ s, isDigit c = true := by
  induction s generalizing n with
  | nil => exact fun c hc => absurd hc List.not_mem_nil
  | cons c s ih =>
    obtain ⟨d, hd, hrest⟩ := Option.bind_eq_some_iff.1 h
    exact List.forall_mem_cons.2 ⟨isDigit_of_digitValue? hd, ih hrest⟩

/-- Only digits are read as a numeral. -/
theorem isDigit_of_decimalValue? {s : List Char} {n : Nat} (h : decimalValue? s = some n) :
    ∀ c ∈ s, isDigit c = true := by
  match s with
  | [] => cases h
  | c :: s => exact isDigit_of_digitsFrom? h

theorem digitsFrom?_digits {s : List Char} (h : ∀ c ∈ s, isDigit c = true) (n : Nat) :
    digitsFrom? 10 n s = some (Nat.ofDigitChars 10 s n) := by
  induction s generalizing n with
  | nil => rfl
  | cons c s ih =>
    have hc := digitValue?_of_isDigit (h c List.mem_cons_self)
    rw [digitsFrom?, hc, Option.bind_eq_bind, Option.bind_some,
      ih (fun d hd => h d (List.mem_cons_of_mem c hd)), Nat.ofDigitChars_cons, Nat.mul_comm]
    rfl

theorem decimalValue?_digits {s : List Char} (hs : s ≠ []) (h : ∀ c ∈ s, isDigit c = true) :
    decimalValue? s = some (Nat.ofDigitChars 10 s 0) := by
  match s, hs with
  | c :: s, _ => exact digitsFrom?_digits h 0

theorem decimalValue?_decimal (n : Nat) : decimalValue? (decimal n) = some n := by
  rw [decimalValue?_digits (decimal_ne_nil n) fun c hc => isDigit_of_mem_decimal hc]
  exact congrArg some (Nat.ofDigitChars_toDigits (by decide) (by decide))

/-! ## Other bases -/

theorem digitsFrom?_append (base acc : Nat) (s t : List Char) :
    digitsFrom? base acc (s ++ t) = (digitsFrom? base acc s).bind fun n => digitsFrom? base n t := by
  induction s generalizing acc with
  | nil => rfl
  | cons c s ih =>
    rw [List.cons_append, digitsFrom?, digitsFrom?]
    cases (digitValue? c).filter (· < base) with
    | none => rfl
    | some d => exact ih _

theorem digitsFrom?_zeros {base : Nat} (h : 0 < base) (n : Nat) (s : List Char) :
    digitsFrom? base 0 (List.replicate n '0' ++ s) = digitsFrom? base 0 s := by
  have hzero : (digitValue? '0').filter (· < base) = some 0 := by
    rw [show digitValue? '0' = some 0 from rfl, Option.filter_some, if_pos (decide_eq_true h)]
  induction n with
  | zero => rfl
  | succ n ih =>
    rw [List.replicate_succ, List.cons_append, digitsFrom?, hzero, Option.bind_eq_bind,
      Option.bind_some, Nat.zero_mul]
    exact ih

/-- A numeral is read back, also with other letters for its digits. -/
theorem digitsFrom?_toDigits {base : Nat} (hbase : 1 < base) {letter : Char → Char}
    (hletter : ∀ d < base, (digitValue? (letter (Nat.digitChar d))).filter (· < base) = some d)
    (n : Nat) : digitsFrom? base 0 ((Nat.toDigits base n).map letter) = some n := by
  induction n using Nat.strongRecOn with
  | ind n ih =>
    rw [Nat.toDigits_eq_if hbase]
    split
    · rename_i hn
      rw [List.map_singleton, digitsFrom?, hletter n hn, Option.bind_eq_bind,
        Option.bind_some, Nat.zero_mul, Nat.zero_add]
      rfl
    · rename_i hn
      have hdiv : n / base < n := Nat.div_lt_self (by omega) hbase
      rw [List.map_append, digitsFrom?_append, ih _ hdiv, Option.bind_some, List.map_singleton,
        digitsFrom?, hletter _ (Nat.mod_lt n (by omega)), Option.bind_eq_bind, Option.bind_some,
        Nat.div_add_mod']
      rfl

/-! ## First digits -/

theorem head?_decimal_ne {n : Nat} (h : 0 < n) : (decimal n).head? ≠ some '0' := by
  induction n using Nat.strongRecOn with
  | ind n ih =>
    rw [decimal, Nat.toDigits_eq_if (by decide)]
    split
    · rename_i hn
      have : ∀ m < 10, 0 < m → [Nat.digitChar m].head? ≠ some '0' := by decide
      exact this n hn h
    · have hdiv := ih (n / 10) (by omega) (by omega)
      rw [List.head?_append_of_ne_nil _ Nat.toDigits_ne_nil]
      exact hdiv

/-- There is no needless zero. -/
theorem decimal_ne_padded (n : Nat) (c : Char) (rest : List Char) :
    decimal n ≠ '0' :: c :: rest := by
  intro hdecimal
  cases n with
  | zero => exact absurd (List.cons.inj hdecimal).2 (List.cons_ne_nil c rest).symm
  | succ n => exact head?_decimal_ne (Nat.succ_pos n) (congrArg List.head? hdecimal)

/-! ## Last digits -/

theorem exists_dropTrailingZeros (s : List Char) : ∃ n,
    s = dropTrailingZeros s ++ List.replicate n '0' ∧ (dropTrailingZeros s).getLast? ≠ some '0' := by
  refine ⟨(s.reverse.takeWhile (· == '0')).length, ?_, ?_⟩
  · have hzeros : s.reverse.takeWhile (· == '0') =
        List.replicate (s.reverse.takeWhile (· == '0')).length '0' :=
      List.eq_replicate_iff.2 ⟨rfl, fun c hc => by
        simpa using List.all_eq_true.1 List.all_takeWhile c hc⟩
    have hsplit := List.takeWhile_append_dropWhile (p := (· == '0')) (l := s.reverse)
    rw [hzeros] at hsplit
    have := congrArg List.reverse hsplit
    rw [List.reverse_append, List.reverse_replicate, List.reverse_reverse] at this
    exact this.symm
  · rw [dropTrailingZeros, List.getLast?_reverse]
    intro h
    have := List.head?_dropWhile_not (· == '0') s.reverse
    rw [h] at this
    exact absurd this (by decide)

end LoginGate.Text
