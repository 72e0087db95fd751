import LoginGate.Proofs.Text.Numerals
import LoginGate.Proofs.Toml.Lines

/-!
# Whole numbers, written and read
-/

namespace LoginGate.Toml

open LoginGate.Text LoginGate.Number

/-! ## What is no moment -/

theorem after?_eq_none {c : Char} {s : List Char} (h : c ∉ s) : after? c s = none := by
  match s with
  | [] => rfl
  | d :: s =>
    refine if_neg ?_
    rintro rfl
    exact h List.mem_cons_self

theorem mem_of_digits? {count low high n : Nat} {s rest : List Char} {c : Char}
    (h : digits? count low high s = some (n, rest)) (hc : c ∈ rest) : c ∈ s := by
  unfold digits? at h
  simp only [Option.bind_eq_bind] at h
  split at h
  · obtain ⟨m, -, h⟩ := Option.bind_eq_some_iff.1 h
    split at h
    · rw [← (Prod.mk.inj (Option.some.inj h)).2] at hc
      exact List.mem_of_mem_drop hc
    · cases h
  · cases h

theorem date?_eq_none {s : List Char} (h : '-' ∉ s) : date? s = none := by
  rw [date?]
  cases hd : digits? 4 0 9999 s with
  | none => rfl
  | some p =>
    have hafter : after? '-' p.2 = none := after?_eq_none fun hc => h (mem_of_digits? hd hc)
    simp only [Option.bind_eq_bind, Option.bind_some, hafter]
    rfl

theorem timeOfDay?_eq_none {s : List Char} (h : ':' ∉ s) : timeOfDay? s = none := by
  rw [timeOfDay?]
  cases hd : digits? 2 0 23 s with
  | none => rfl
  | some p =>
    have hafter : after? ':' p.2 = none := after?_eq_none fun hc => h (mem_of_digits? hd hc)
    simp only [Option.bind_eq_bind, Option.bind_some, hafter]
    rfl

theorem moment?_eq_none {s : List Char} (hdash : '-' ∉ s) (hcolon : ':' ∉ s) :
    moment? s = none := by
  rw [moment?, timeOfDay?_eq_none hcolon, date?_eq_none hdash]
  rfl

/-! ## Digits -/

theorem plainDigitsFrom?_digits {s : List Char} (h : ∀ c ∈ s, isDigit c = true) {last : Char}
    (hlast : s = [] → last ≠ '_') : plainDigitsFrom? isDigit last s = some s := by
  induction s generalizing last with
  | nil => exact if_neg (hlast rfl)
  | cons c s ih =>
    have hc := h c List.mem_cons_self
    have hne : c ≠ '_' := by
      rintro rfl
      exact absurd hc (by decide)
    rw [plainDigitsFrom?, if_neg hne, if_pos hc,
      ih (fun d hd => h d (List.mem_cons_of_mem c hd)) fun _ => hne]
    rfl

theorem decimalDigits?_decimal (n : Nat) : decimalDigits? (decimal n) = some (decimal n) := by
  have hplain : plainDigits? isDigit (decimal n) = some (decimal n) :=
    plainDigitsFrom?_digits (fun c hc => isDigit_of_mem_decimal hc)
      fun h => absurd h (decimal_ne_nil n)
  rw [decimalDigits?, hplain]
  simp only [Option.bind_eq_bind, Option.bind_some]
  split
  · rename_i c s heq
    -- a numeral of two digits or more does not begin with zero
    rcases Nat.eq_zero_or_pos n with rfl | hn
    · have hzero : decimal 0 = ['0'] := rfl
      rw [hzero] at heq
      cases heq
    · exact absurd (by rw [heq]; rfl) (head?_decimal_ne hn)
  · rfl

theorem decimalNumber?_digits {s : List Char} {n : Nat} (h : ∀ c ∈ s, isDigit c = true)
    (hdigits : decimalDigits? s = some s) (hvalue : decimalValue? s = some n) (negative : Bool) :
    decimalNumber? negative s = wholeOf? negative n := by
  have hin : ∀ c ∈ s, (isDigit c || decide (c = '_')) = true := fun c hc => by
    rw [h c hc, Bool.true_or]
  have htake := List.takeWhile_eq_self_iff.2 hin
  have hdrop := List.dropWhile_eq_nil_iff.2 hin
  rw [decimalNumber?]
  simp only [htake, hdrop, hdigits, Option.bind_eq_bind, Option.bind_some, hvalue]

/-- A numeral is a whole number, unless that has more than 64 bits. -/
theorem scalar?_decimal (n : Nat) : scalar? (decimal n) = wholeOf? false n := by
  have hdigits : ∀ c ∈ decimal n, isDigit c = true := fun c hc => isDigit_of_mem_decimal hc
  have hnumber := decimalNumber?_digits hdigits (decimalDigits?_decimal n)
    (decimalValue?_decimal n) false
  generalize decimal n = s at hdigits hnumber
  have hne (c : Char) (hc : isDigit c = false) : c ∉ s := fun h => by
    rw [hdigits c h] at hc
    cases hc
  have hword (w : List Char) (hw : w.any (fun c => !isDigit c) = true) : s ≠ w := by
    rintro rfl
    obtain ⟨c, hc, h⟩ := List.any_eq_true.1 hw
    rw [hdigits c hc] at h
    cases h
  have hsigned : signed s = (false, s) := by
    unfold signed
    split
    · exact absurd List.mem_cons_self (hne '-' (by decide))
    · exact absurd List.mem_cons_self (hne '+' (by decide))
    · rfl
  have hnumber? : number? s = wholeOf? false n := by
    rw [number?, hsigned]
    simp only
    rw [if_neg (hword _ (by decide)), if_neg (hword _ (by decide)), hnumber]
  unfold scalar?
  split
  · exact absurd (List.mem_cons_of_mem _ List.mem_cons_self) (hne 'x' (by decide))
  · exact absurd (List.mem_cons_of_mem _ List.mem_cons_self) (hne 'o' (by decide))
  · exact absurd (List.mem_cons_of_mem _ List.mem_cons_self) (hne 'b' (by decide))
  · rw [if_neg (hword _ (by decide)), if_neg (hword _ (by decide)), hnumber?,
      moment?_eq_none (hne '-' (by decide)) (hne ':' (by decide))]
    exact Option.or_none

theorem isKeyChar_of_isDigit {c : Char} (h : isDigit c = true) : isKeyChar c = true := by
  have hdigit : c.isDigit = true := h
  simp [isKeyChar, Char.isAlphanum, hdigit]

theorem isScalarChar_of_isKeyChar {c : Char} (h : isKeyChar c = true) : isScalarChar c = true := by
  have hne (d : Char) (hd : isKeyChar d = false) : c ≠ d := by
    rintro rfl
    rw [h] at hd
    cases hd
  have hspace : isSpace c = false := by
    simp [isSpace, hne ' ' (by decide), hne '\t' (by decide)]
  have hmarks : c ∉ ['\n', '\r', ',', ']', '[', '\x7D', '\x7B', '#', '=', '"', '\''] := by
    intro hc
    have hno : ['\n', '\r', ',', ']', '[', '\x7D', '\x7B', '#', '=', '"', '\''].all
        (fun d => !isKeyChar d) = true := by decide
    exact hne c (Bool.not_eq_true' _ ▸ List.all_eq_true.1 hno c hc) rfl
  simp only [isScalarChar, hspace, hmarks, not_false_eq_true, decide_true, Bool.not_false,
    Bool.and_self]

theorem value?_bare {c : Char} (h : c ∉ ['"', '\'', '[', '\x7B']) (fuel depth : Nat)
    (s : List Char) : value? (fuel + 1) depth (c :: s) = bare? (c :: s) := by
  simp only [List.mem_cons, List.not_mem_nil, or_false, not_or] at h
  rw [value?]
  · exact fun _ heq => h.1 (List.cons.inj heq).1
  · exact fun _ heq => h.2.1 (List.cons.inj heq).1
  · exact fun _ heq => h.2.2.1 (List.cons.inj heq).1
  · exact fun _ heq => h.2.2.2 (List.cons.inj heq).1

theorem value?_decimal (fuel depth n : Nat) (rest : List Char) :
    value? (fuel + 1) depth (decimal n ++ '\n' :: rest) =
      (wholeOf? false n).map fun v => (v, '\n' :: rest) := by
  have hdigits : ∀ c ∈ decimal n, isDigit c = true := fun c hc => isDigit_of_mem_decimal hc
  have hscalar := scalar?_decimal n
  have hnil := decimal_ne_nil n
  generalize decimal n = s at hdigits hscalar hnil
  have hchars : ∀ c ∈ s, isScalarChar c = true := fun c hc =>
    isScalarChar_of_isKeyChar (isKeyChar_of_isDigit (hdigits c hc))
  have htake : (s ++ '\n' :: rest).takeWhile isScalarChar = s := by
    rw [List.takeWhile_append_of_pos hchars, List.takeWhile_cons_of_neg (by decide),
      List.append_nil]
  have hdrop : (s ++ '\n' :: rest).dropWhile isScalarChar = '\n' :: rest := by
    rw [List.dropWhile_append_of_pos hchars, List.dropWhile_cons_of_neg (by decide)]
  have hdate : date? s = none := date?_eq_none fun h => absurd (hdigits _ h) (by decide)
  have hbare : bare? (s ++ '\n' :: rest) = (wholeOf? false n).map fun v => (v, '\n' :: rest) := by
    rw [bare?]
    simp only [htake, hdrop, hdate, hscalar]
  obtain ⟨c, t, rfl⟩ := List.exists_cons_of_ne_nil hnil
  rw [← hbare]
  refine value?_bare (fun h => ?_) fuel depth _
  have hmarks : ['"', '\'', '[', '\x7B'].all (fun d => !isDigit d) = true := by decide
  have hc := List.all_eq_true.1 hmarks c h
  rw [hdigits c List.mem_cons_self] at hc
  cases hc

end LoginGate.Toml
