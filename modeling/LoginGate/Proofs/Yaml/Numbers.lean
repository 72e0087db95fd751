import LoginGate.Proofs.Json.WellFormed
import LoginGate.Proofs.Number.ReadBack
import LoginGate.Yaml.Value

/-!
# Numbers as plain scalars

    resolutionValue? n.text (resolve n.text) = some (.number n)               (resolve_number)

for every number that is well formed: a whole number is written in decimal, a real one with a point
or a power of ten, and neither is one of the words that the core schema gives a meaning.
-/

namespace LoginGate.Yaml

open LoginGate.Text LoginGate.Number

/-! ## Words and numbers -/

/-- A text with a digit in it is none of the words. -/
theorem ne_of_digit {s w : List Char} {d : Char} (hd : d ∈ s) (hdigit : isDigit d = true)
    (hw : w.all (fun c => !isDigit c) = true) : s ≠ w := by
  rintro rfl
  have := List.all_eq_true.1 hw d hd
  rw [hdigit] at this
  cases this

section

variable {s : List Char} {d : Char} (hd : d ∈ s) (hdigit : isDigit d = true)

include hd hdigit

theorem not_null_of_digit : (s.isEmpty || isNullWord s) = false := by
  have hne (w : List Char) (hw : w.all (fun c => !isDigit c) = true) : (s == w) = false :=
    beq_false_of_ne (ne_of_digit hd hdigit hw)
  simp only [isNullWord, List.isEmpty_eq_false_iff.2 (List.ne_nil_of_mem hd),
    hne "null".toList (by decide), hne "Null".toList (by decide), hne "NULL".toList (by decide),
    hne ['~'] (by decide), Bool.or_self]

theorem bool?_of_digit : bool? s = none := by
  have hne (w : List Char) (hw : w.all (fun c => !isDigit c) = true) : s ≠ w :=
    ne_of_digit hd hdigit hw
  simp only [bool?, hne "true".toList (by decide), hne "True".toList (by decide),
    hne "TRUE".toList (by decide), hne "false".toList (by decide), hne "False".toList (by decide),
    hne "FALSE".toList (by decide), or_self, if_false]

theorem resolve_of_whole {r : Resolution} (h : wholeResolution? s = some r) : resolve s = r := by
  rw [resolve, not_null_of_digit hd hdigit, if_neg Bool.false_ne_true, bool?_of_digit hd hdigit, h]

theorem resolve_of_real {x : Extended} (hwhole : wholeResolution? s = none)
    (hpadded : isPaddedDigits s = false) (h : real? s = some x) : resolve s = .real x := by
  rw [resolve, not_null_of_digit hd hdigit, if_neg Bool.false_ne_true, bool?_of_digit hd hdigit,
    hwhole]
  dsimp only
  rw [hpadded, if_neg Bool.false_ne_true, h]

end

/-! ## Whole numbers -/

theorem magnitude?_decimal (n : Nat) : magnitude? (decimal n) = some n := by
  have hdigits : ∀ c ∈ decimal n, isDigit c = true := fun c hc => isDigit_of_mem_decimal hc
  have hvalue := decimalValue?_decimal n
  generalize decimal n = s at hdigits hvalue
  have hne (c : Char) (hc : isDigit c = false) : c ∉ s := not_mem_of_digits hdigits hc
  unfold magnitude?
  split
  · exact absurd (List.mem_cons_of_mem _ List.mem_cons_self) (hne 'x' (by decide))
  · exact absurd (List.mem_cons_of_mem _ List.mem_cons_self) (hne 'o' (by decide))
  · exact absurd (List.mem_cons_of_mem _ List.mem_cons_self) (hne 'b' (by decide))
  · exact hvalue

theorem isPaddedDigits_of_signed {s : List Char} {negative : Bool} {n : Nat}
    (h : signed s = (negative, decimal n)) : isPaddedDigits s = false := by
  rw [isPaddedDigits, h]
  dsimp only
  split
  · rename_i c rest hdecimal
    exact absurd hdecimal (decimal_ne_padded n c rest)
  · rfl

theorem signed_text (z : Int) :
    signed (Json.Number.whole z).text = (decide (z < 0), decimal z.natAbs) := by
  rw [Json.Number.text]
  split_ifs with h
  · rw [decide_eq_true h]
    rfl
  · rw [decide_eq_false h, signed_digits fun c hc => isDigit_of_mem_decimal hc]

theorem whole?_text (z : Int) : whole? (Json.Number.whole z).text = some z := by
  have hsigned := signed_text z
  rw [whole?, isPaddedDigits_of_signed hsigned, if_neg Bool.false_ne_true, hsigned]
  by_cases h : z < 0
  · rw [decide_eq_true h]
    dsimp only
    rw [magnitude?_decimal]
    exact congrArg some (show -(z.natAbs : Int) = z by omega)
  · rw [decide_eq_false h]
    dsimp only
    rw [magnitude?_decimal]
    exact congrArg some (show (z.natAbs : Int) = z by omega)

/-- A whole number is written with a digit at least. -/
theorem exists_digit_text (z : Int) : ∃ d ∈ (Json.Number.whole z).text, isDigit d = true := by
  obtain ⟨d, rest, hdecimal⟩ := List.exists_cons_of_ne_nil (decimal_ne_nil z.natAbs)
  have hd : d ∈ decimal z.natAbs := hdecimal ▸ List.mem_cons_self
  refine ⟨d, ?_, isDigit_of_mem_decimal hd⟩
  rw [Json.Number.text]
  split_ifs
  · exact List.mem_cons_of_mem _ hd
  · exact hd

theorem resolve_whole {z : Int} (h : Json.Number.fits z = true) :
    resolve (Json.Number.whole z).text = .whole z := by
  obtain ⟨d, hd, hdigit⟩ := exists_digit_text z
  rw [Json.Number.fits, Bool.or_eq_true] at h
  refine resolve_of_whole hd hdigit ?_
  rw [wholeResolution?, whole?_text, Option.bind_eq_bind, Option.bind_some, ofWhole?, if_pos h]

/-! ## Real numbers -/

section

variable {x : Binary64} {before after power : List Char} (h : Spells x before after power)

include h

theorem signed_spelled : signed (x.signText ++ spelled before after power) =
    (x.negative, spelled before after power) := by
  obtain ⟨c, rest, hspelled, hc⟩ := h.head?
  rw [hspelled, Binary64.signText]
  cases x.negative with
  | true => rfl
  | false =>
    rw [if_neg Bool.false_ne_true, List.nil_append]
    unfold signed
    split
    · rename_i heq
      rw [(List.cons.inj heq).1] at hc
      exact absurd hc (by decide)
    · rename_i heq
      rw [(List.cons.inj heq).1] at hc
      exact absurd hc (by decide)
    · rfl

theorem magnitude?_spelled : magnitude? (spelled before after power) = none := by
  have hnot (c : Char) (hc : (isDigit c || ['.', 'e', '+', '-'].contains c) = false) :
      c ∉ spelled before after power := fun hmem => by
    rw [Bool.or_eq_false_iff] at hc
    obtain hdigit | hmark := h.mem hmem
    · rw [hdigit] at hc
      cases hc.1
    · rw [List.contains_iff_mem.2 hmark] at hc
      cases hc.2
  obtain ⟨c, hmem, hc⟩ := h.exists_not_isDigit
  generalize spelled before after power = s at hnot hmem
  unfold magnitude?
  split
  · exact absurd (List.mem_cons_of_mem _ List.mem_cons_self) (hnot 'x' (by decide))
  · exact absurd (List.mem_cons_of_mem _ List.mem_cons_self) (hnot 'o' (by decide))
  · exact absurd (List.mem_cons_of_mem _ List.mem_cons_self) (hnot 'b' (by decide))
  · rw [Option.eq_none_iff_forall_ne_some]
    intro n hn
    rw [isDigit_of_decimalValue? hn c hmem] at hc
    cases hc

theorem isPaddedDigits_spelled :
    isPaddedDigits (x.signText ++ spelled before after power) = false := by
  rw [isPaddedDigits, signed_spelled h]
  dsimp only
  split
  · rename_i c rest hspelled
    obtain ⟨d, hd, hdigit⟩ := h.exists_not_isDigit
    rw [hspelled] at hd
    obtain rfl | hd := List.mem_cons.1 hd
    · cases hdigit
    · rw [List.all_eq_false]
      exact ⟨d, hd, by rw [hdigit]; exact Bool.false_ne_true⟩
  · rfl

end

theorem resolve_real {x : Binary64} (hx : x.InFormat) :
    resolve (Json.Number.real x).text = .real (.finite x) := by
  obtain ⟨before, after, power, h, htext⟩ := Binary64.scientificText_spells hx Json.Number.range
  obtain ⟨c, rest, hspelled, hc⟩ := h.head?
  have hmem : c ∈ spelled before after power := hspelled ▸ List.mem_cons_self
  have hmemSigned : c ∈ x.signText ++ spelled before after power := List.mem_append_right _ hmem
  have hwhole : wholeResolution? (x.signText ++ spelled before after power) = none := by
    rw [wholeResolution?, whole?, isPaddedDigits_spelled h, if_neg Bool.false_ne_true,
      signed_spelled h]
    cases x.negative <;> dsimp only <;> rw [magnitude?_spelled h] <;> rfl
  have hne (w : List Char) (hw : w.all (fun c => !isDigit c) = true) :
      spelled before after power ≠ w := ne_of_digit hmem hc hw
  have hneSigned (w : List Char) (hw : w.all (fun c => !isDigit c) = true) :
      x.signText ++ spelled before after power ≠ w := ne_of_digit hmemSigned hc hw
  have hreal : real? (x.signText ++ spelled before after power) = some (.finite x) := by
    rw [real?, signed_spelled h]
    dsimp only
    rw [if_neg (by simp only [hne ".inf".toList (by decide), hne ".Inf".toList (by decide),
        hne ".INF".toList (by decide), or_self, not_false_eq_true]),
      if_neg (by simp only [hneSigned ".nan".toList (by decide),
        hneSigned ".NaN".toList (by decide), hneSigned ".NAN".toList (by decide), or_self,
        not_false_eq_true]), h.read]
  rw [Json.Number.text, htext]
  exact resolve_of_real hmemSigned hc hwhole (isPaddedDigits_spelled h) hreal

/-- **A number is read off its text.** -/
theorem resolve_number {n : Json.Number} (h : n.WellFormed) :
    resolutionValue? n.text (resolve n.text) = some (.number n) := by
  cases h with
  | whole h => rw [resolve_whole h, resolutionValue?]
  | real h => rw [resolve_real h, resolutionValue?]

end LoginGate.Yaml
