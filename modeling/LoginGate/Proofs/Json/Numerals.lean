import LoginGate.Proofs.Json.Grammar
import LoginGate.Proofs.Json.WellFormed

/-!
# Words read as numbers

A word is read as a number if and only if it is a numeral with a value, and what is read is that
value (`number?_written`, `exists_numeral`).
-/

namespace LoginGate.Json

open LoginGate.Text LoginGate.Number

/-! ## Whole parts -/

/-- A whole part that does not fit in 64 bits is cut off. -/
theorem ofWhole_exponent_ne {s : List Char} {acc : Nat} (hacc : acc < twoTo 64)
    (h : twoTo 64 ≤ Nat.ofDigitChars 10 s acc) : (Significand.ofWhole acc s).exponent ≠ 0 := by
  induction s generalizing acc with
  | nil =>
    rw [Nat.ofDigitChars_nil] at h
    omega
  | cons c s ih =>
    have hnext : 10 * acc + (c.toNat - '0'.toNat) = acc * 10 + (c.toNat - 48) :=
      congrArg (· + (c.toNat - 48)) (Nat.mul_comm 10 acc)
    rw [Nat.ofDigitChars_cons, hnext] at h
    rw [Significand.ofWhole]
    by_cases hlimit : Significand.limit < acc * 10 + (c.toNat - 48)
    · rw [if_pos hlimit]
      show (s.length : Int) + 1 ≠ 0
      omega
    · rw [if_neg hlimit]
      refine ih ?_ h
      unfold Significand.limit at hlimit
      omega

theorem fits_neg_iff (n : Nat) : Number.fits (-(n : Int)) = true ↔ n ≤ twoTo 63 := by
  have hsmall : ((twoTo 63 : Nat) : Int) < twoTo 64 := by decide
  simp only [Number.fits, isSigned, isUnsigned, Nat.reduceSub, Bool.or_eq_true, Bool.and_eq_true, decide_eq_true_eq]
  constructor
  · rintro (h | h)
    · have := h.1
      omega
    · omega
  · intro h
    left
    have : 0 < twoTo 63 := by decide
    omega

theorem not_fits_of_le {n : Nat} (h : twoTo 64 ≤ n) : Number.fits (n : Int) = false := by
  have hsmall : twoTo 63 < twoTo 64 := by decide
  simp only [Number.fits, isSigned, isUnsigned, Nat.reduceSub, Bool.or_eq_false_iff, Bool.and_eq_false_iff,
    decide_eq_false_iff_not]
  omega

theorem unsigned?_nil (x : Numeral) (hf : x.fraction = none) (he : x.exponent = none) :
    unsigned? x.negative x.whole [] = x.value? := by
  have hvalue : x.value? = if Number.fits x.integer && !(x.negative && x.integer = 0) then
      some (.whole x.integer)
    else (Significand.ofWhole 0 x.whole).real? x.negative 0 := by
    rw [Numeral.value?, Numeral.isInteger, hf, he]
    rfl
  rw [hvalue, Numeral.integer, unsigned?]
  by_cases hn : Nat.ofDigitChars 10 x.whole 0 < twoTo 64
  · rw [ofWhole_digits hn]
    generalize Nat.ofDigitChars 10 x.whole 0 = n at hn
    cases x.negative with
    | false =>
      have hfits := Number.fits_natCast hn
      simp [hfits]
    | true =>
      have hfits := fits_neg_iff n
      by_cases hsmall : n = 0 ∨ twoTo 63 < n
      · rcases hsmall with rfl | hsmall
        · simp
        · have : Number.fits (-(n : Int)) = false := by
            rw [← Bool.not_eq_true, hfits]
            omega
          simp [this, hsmall]
      · have : Number.fits (-(n : Int)) = true := hfits.2 (by omega)
        have hne : n ≠ 0 := fun h => hsmall (.inl h)
        have hle : n ≤ twoTo 63 := by omega
        simp [this, hne, hle]
  · have hexponent := ofWhole_exponent_ne (by decide) (Nat.not_lt.1 hn)
    have hfits : Number.fits (if x.negative then -(Nat.ofDigitChars 10 x.whole 0 : Int)
        else Nat.ofDigitChars 10 x.whole 0) = false := by
      cases x.negative with
      | false => exact not_fits_of_le (Nat.not_lt.1 hn)
      | true =>
        have hsmall : twoTo 63 < twoTo 64 := by decide
        rw [← Bool.not_eq_true, if_pos rfl, fits_neg_iff]
        omega
    rw [hfits, if_pos hexponent]
    rfl

/-! ## Powers of ten -/

theorem exponent?_written (e : Exponent) : exponent? (e.sign ++ e.digits) = some e.value := by
  obtain ⟨hne, hdigits⟩ := e.isDigits
  have hvalue := decimalValue?_digits hne hdigits
  rw [Exponent.value]
  rcases e.isSign with h | h | h <;> rw [h]
  · obtain ⟨d, rest, hd⟩ := List.exists_cons_of_ne_nil hne
    have hdigit := hdigits d (hd ▸ List.mem_cons_self)
    rw [hd] at hvalue
    rw [hd, List.nil_append]
    unfold exponent?
    split
    · next heq =>
      rw [(List.cons.inj heq).1] at hdigit
      exact absurd hdigit (by decide)
    · next heq =>
      rw [(List.cons.inj heq).1] at hdigit
      exact absurd hdigit (by decide)
    · rw [hvalue]
      rfl
  · rw [List.singleton_append, exponent?, hvalue]
    rfl
  · rw [List.singleton_append, exponent?, hvalue]
    rfl

theorem isDigits_of_decimalValue? {s : List Char} {n : Nat} (h : decimalValue? s = some n) :
    IsDigits s := by
  refine ⟨?_, isDigit_of_decimalValue? h⟩
  rintro rfl
  cases h

theorem exists_exponent {letter : Char} (hletter : letter = 'e' ∨ letter = 'E') {s : List Char}
    {z : Int} (h : exponent? s = some z) : ∃ e : Exponent, e.written = letter :: s := by
  unfold exponent? at h
  split at h
  · obtain ⟨_, hz, -⟩ := Option.map_eq_some_iff.1 h
    obtain ⟨n, hn, -⟩ := Option.bind_eq_some_iff.1 hz
    exact ⟨⟨letter, ['+'], _, hletter, .inr (.inl rfl), isDigits_of_decimalValue? hn⟩, rfl⟩
  · obtain ⟨_, hz, -⟩ := Option.map_eq_some_iff.1 h
    obtain ⟨n, hn, -⟩ := Option.bind_eq_some_iff.1 hz
    exact ⟨⟨letter, ['-'], _, hletter, .inr (.inr rfl), isDigits_of_decimalValue? hn⟩, rfl⟩
  · obtain ⟨_, hz, -⟩ := Option.map_eq_some_iff.1 h
    obtain ⟨n, hn, -⟩ := Option.bind_eq_some_iff.1 hz
    exact ⟨⟨letter, [], _, hletter, .inl rfl, isDigits_of_decimalValue? hn⟩, rfl⟩

/-! ## Numerals -/

theorem Exponent.endsRun (e : Exponent) : EndsRun isDigit e.written := by
  refine endsRun_cons ?_ _
  rcases e.isLetter with h | h <;> rw [h] <;> decide

theorem spanDigits_append {digits rest : List Char} (hdigits : ∀ c ∈ digits, isDigit c = true)
    (hrest : EndsRun isDigit rest) : spanDigits (digits ++ rest) = (digits, rest) := by
  rw [spanDigits, takeWhile_run hdigits hrest, dropWhile_run hdigits hrest]

theorem unsigned?_tail (x : Numeral) : unsigned? x.negative x.whole x.tail = x.value? := by
  -- a numeral with a fraction or a power of ten is no integer
  have hreal (h : (x.fraction.isNone && x.exponent.isNone) = false) : x.value? =
      ((Significand.ofWhole 0 x.whole).withFraction (x.fraction.getD [])).real? x.negative
        (x.exponent.elim 0 Exponent.value) := by
    rw [Numeral.value?, Numeral.isInteger, h]
    rfl
  have hexponent (e : Exponent) : (e.letter = 'e' ∨ e.letter = 'E') ∧ e.letter ≠ '.' := by
    refine ⟨e.isLetter, ?_⟩
    rcases e.isLetter with h | h <;> rw [h] <;> decide
  cases hf : x.fraction with
  | none =>
    cases he : x.exponent with
    | none =>
      rw [Numeral.tail, hf, he]
      exact unsigned?_nil x hf he
    | some e =>
      obtain ⟨hletter, hpoint⟩ := hexponent e
      have htail : x.tail = e.letter :: (e.sign ++ e.digits) := by
        rw [Numeral.tail, hf, he]
        rfl
      rw [hreal (by rw [he, Option.isNone_some, Bool.and_false]), htail, unsigned?, if_pos hletter,
        exponent?_written, hf, he]
      · rfl
      · exact fun h => hpoint h
  | some s =>
    obtain ⟨hne, hdigits⟩ := x.isFraction s hf
    have hempty : s.isEmpty = false := List.isEmpty_eq_false_iff.2 hne
    cases he : x.exponent with
    | none =>
      have htail : x.tail = '.' :: s := by
        rw [Numeral.tail, hf, he, Option.elim_some, Option.elim_none, List.append_nil]
      have hspan : spanDigits s = (s, []) := by
        have := spanDigits_append hdigits endsRun_nil
        rwa [List.append_nil] at this
      rw [hreal (by rw [hf, Option.isNone_some, Bool.false_and]), htail, unsigned?, hspan, hf, he]
      dsimp only
      rw [hempty, if_neg Bool.false_ne_true]
      rfl
    | some e =>
      have htail : x.tail = '.' :: (s ++ e.letter :: (e.sign ++ e.digits)) := by
        rw [Numeral.tail, hf, he]
        rfl
      have hspan : spanDigits (s ++ e.letter :: (e.sign ++ e.digits)) =
          (s, e.letter :: (e.sign ++ e.digits)) := spanDigits_append hdigits e.endsRun
      rw [hreal (by rw [hf, Option.isNone_some, Bool.false_and]), htail, unsigned?, hspan, hf, he]
      dsimp only
      rw [hempty, if_neg Bool.false_ne_true, if_pos (hexponent e).1, exponent?_written]
      rfl

theorem Numeral.endsRun_tail (x : Numeral) : EndsRun isDigit x.tail := by
  rw [tail]
  cases x.fraction with
  | some s => exact endsRun_cons (by decide) _
  | none =>
    cases x.exponent with
    | none => exact endsRun_nil
    | some e => exact e.endsRun

/-- **A numeral is read as its value.** -/
theorem number?_written (x : Numeral) : number? x.written = x.value? := by
  obtain ⟨hne, hdigits⟩ := x.isWhole
  have hspan := spanDigits_append hdigits x.endsRun_tail
  -- the sign is cut off
  have hsign : x.written = (if x.negative then ['-'] else []) ++ (x.whole ++ x.tail) :=
    List.append_assoc ..
  have hmain : number? x.written = unsigned? x.negative x.whole x.tail := by
    rw [hsign]
    unfold number?
    split
    rename_i negative s hmatch
    have hcut : negative = x.negative ∧ s = x.whole ++ x.tail := by
      cases hnegative : x.negative with
      | true =>
        rw [hnegative] at hmatch
        obtain ⟨rfl, rfl⟩ := Prod.mk.inj hmatch
        exact ⟨rfl, rfl⟩
      | false =>
        rw [hnegative] at hmatch
        split at hmatch
        · next rest heq =>
          obtain ⟨d, more, hd⟩ := List.exists_cons_of_ne_nil hne
          have hdash : d = '-' := by
            have heq : x.whole ++ x.tail = '-' :: rest := heq
            rw [hd] at heq
            exact (List.cons.inj heq).1
          have := hdigits d (hd ▸ List.mem_cons_self)
          rw [hdash] at this
          exact absurd this (by decide)
        · obtain ⟨rfl, rfl⟩ := Prod.mk.inj hmatch
          exact ⟨rfl, rfl⟩
    obtain ⟨rfl, rfl⟩ := hcut
    rw [hspan]
    split
    · next heq => exact absurd (congrArg Prod.fst heq) hne
    · next heq => exact absurd (congrArg Prod.fst heq) (x.unpadded _ _)
    · next heq =>
      obtain ⟨rfl, rfl⟩ := Prod.mk.inj heq
      rfl
  rw [hmain, unsigned?_tail]

/-- What follows a whole part that is read. -/
theorem exists_tail {negative : Bool} {whole rest : List Char} {n : Number}
    (h : unsigned? negative whole rest = some n) :
    ∃ (fraction : Option (List Char)) (exponent : Option Exponent), (∀ s ∈ fraction, IsDigits s) ∧
      fraction.elim [] ('.' :: ·) ++ exponent.elim [] Exponent.written = rest := by
  unfold unsigned? at h
  dsimp only at h
  split at h
  · exact ⟨none, none, by simp, rfl⟩
  · next more =>
    split at h
    · cases h
    · next hempty =>
      have hfraction : IsDigits (spanDigits more).1 := by
        refine ⟨fun hnil => hempty (by rw [hnil]; rfl), fun c hc => ?_⟩
        exact List.mem_takeWhile_imp hc
      have hsplit : (spanDigits more).1 ++ (spanDigits more).2 = more :=
        List.takeWhile_append_dropWhile
      split at h
      · next hend =>
        refine ⟨some (spanDigits more).1, none, by simpa using hfraction, ?_⟩
        rw [hend, List.append_nil] at hsplit
        rw [Option.elim_some, Option.elim_none, List.append_nil, hsplit]
      · next letter written hend =>
        split at h
        · next hletter =>
          obtain ⟨z, hz, -⟩ := Option.bind_eq_some_iff.1 h
          obtain ⟨e, he⟩ := exists_exponent hletter hz
          refine ⟨some (spanDigits more).1, some e, by simpa using hfraction, ?_⟩
          rw [Option.elim_some, Option.elim_some, he, ← hend, List.cons_append, hsplit]
        · cases h
  · next letter written _ =>
    split at h
    · next hletter =>
      obtain ⟨z, hz, -⟩ := Option.bind_eq_some_iff.1 h
      obtain ⟨e, he⟩ := exists_exponent hletter hz
      exact ⟨none, some e, by simp, he⟩
    · cases h

/-- The parts that are read are the parts of a numeral. -/
theorem exists_numeral_of_parts {negative : Bool} {s whole rest : List Char} {n : Number}
    (hspan : spanDigits s = (whole, rest)) (hne : whole ≠ [])
    (hpad : ∀ c more, whole ≠ '0' :: c :: more) (h : unsigned? negative whole rest = some n) :
    ∃ x : Numeral, x.written = (if negative then ['-'] else []) ++ s := by
  obtain ⟨fraction, exponent, hfraction, htail⟩ := exists_tail h
  have hwhole : s.takeWhile isDigit = whole := congrArg Prod.fst hspan
  have hrest : s.dropWhile isDigit = rest := congrArg Prod.snd hspan
  have hdigits : IsDigits whole := by
    refine ⟨hne, fun c hc => ?_⟩
    rw [← hwhole] at hc
    exact List.mem_takeWhile_imp hc
  refine ⟨⟨negative, whole, fraction, exponent, hdigits, hpad, hfraction⟩, ?_⟩
  have hsplit : whole ++ rest = s := by
    rw [← hwhole, ← hrest, List.takeWhile_append_dropWhile]
  rw [Numeral.written, Numeral.tail, htail, List.append_assoc]
  exact congrArg _ hsplit

/-- **Only numerals are read as numbers.** -/
theorem exists_numeral {word : List Char} {n : Number} (h : number? word = some n) :
    ∃ x : Numeral, x.written = word := by
  unfold number? at h
  split at h
  next negative s hmatch =>
    have hsigned : ∃ x : Numeral, x.written = (if negative then ['-'] else []) ++ s := by
      split at h
      · cases h
      · cases h
      · next whole rest hne hpad hspan => exact exists_numeral_of_parts hspan hne hpad h
    obtain ⟨x, hx⟩ := hsigned
    refine ⟨x, hx.trans ?_⟩
    split at hmatch
    · obtain ⟨rfl, rfl⟩ := Prod.mk.inj hmatch
      rfl
    · obtain ⟨rfl, rfl⟩ := Prod.mk.inj hmatch
      rfl

/-! ## Words -/

theorem Numeral.exists_head (x : Numeral) :
    ∃ c rest, x.written = c :: rest ∧ (c = '-' ∨ isDigit c = true) := by
  obtain ⟨hne, hdigits⟩ := x.isWhole
  rw [written]
  split
  · exact ⟨'-', x.whole ++ x.tail, rfl, .inl rfl⟩
  · obtain ⟨d, rest, hd⟩ := List.exists_cons_of_ne_nil hne
    exact ⟨d, rest ++ x.tail, by rw [hd]; rfl, .inr (hdigits d (hd ▸ List.mem_cons_self))⟩

theorem wordValue?_written (x : Numeral) : wordValue? x.written = x.value?.map .number := by
  obtain ⟨c, rest, hc, hfirst⟩ := x.exists_head
  -- the three other words start with a small letter
  have hne {word : List Char} (hword : word.head?.all fun c => c ≠ '-' && !isDigit c) :
      x.written ≠ word := by
    rintro rfl
    rw [hc] at hword
    rcases hfirst with rfl | hdigit
    · cases hword
    · simp [hdigit] at hword
  rw [wordValue?, if_neg (hne rfl), if_neg (hne rfl), if_neg (hne rfl), number?_written]

/-- Only words of trees have a value. -/
theorem exists_leaf {word : List Char} (hword : word ≠ [] ∧ ∀ c ∈ word, isLetter c = true)
    (h : (wordValue? word).isSome) : ∃ t : Tree, t.lexemes = [.word word hword] := by
  unfold wordValue? at h
  split at h
  · next heq =>
    subst heq
    exact ⟨.null, rfl⟩
  split at h
  · next heq =>
    subst heq
    exact ⟨.bool true, rfl⟩
  split at h
  · next heq =>
    subst heq
    exact ⟨.bool false, rfl⟩
  · rw [Option.isSome_map] at h
    obtain ⟨n, hn⟩ := Option.isSome_iff_exists.1 h
    obtain ⟨x, rfl⟩ := exists_numeral hn
    exact ⟨.number x, rfl⟩

end LoginGate.Json
