import LoginGate.Proofs.Text.Numerals
import LoginGate.Proofs.Text.Runs
import LoginGate.Time.Written

/-!
# Durations in words, read back

    ofWritten? d.written = some d        where the seconds fit a count        (ofWritten?_written)

Each amount adds what it stands for (`Adds`), and the amounts of `written` add up to the duration.
-/

namespace LoginGate.Duration

open LoginGate.Text

@[ext]
theorem ext {d d' : Duration} (hs : d.seconds = d'.seconds)
    (hn : d.nanoseconds = d'.nanoseconds) : d = d' := by
  cases d
  cases d'
  simp_all

/-! ## Amounts -/

theorem toNat_of_isUnitChar {c : Char} (h : isUnitChar c = true) :
    (65 ≤ c.toNat ∧ c.toNat ≤ 90) ∨ (97 ≤ c.toNat ∧ c.toNat ≤ 122) ∨ c.toNat = 181 := by
  have hupper : c.isUpper = decide (65 ≤ c.val ∧ c.val ≤ 90) := rfl
  have hlower : c.isLower = (decide (97 ≤ c.val) && decide (c.val ≤ 122)) := rfl
  have halpha : c.isAlpha = (c.isUpper || c.isLower) := rfl
  simp only [isUnitChar, halpha, hupper, hlower, Bool.or_eq_true, Bool.and_eq_true,
    decide_eq_true_eq] at h
  obtain (⟨h₁, h₂⟩ | ⟨h₁, h₂⟩) | rfl := h
  · exact Or.inl ⟨UInt32.le_iff_toNat_le.1 h₁, UInt32.le_iff_toNat_le.1 h₂⟩
  · exact Or.inr (Or.inl ⟨UInt32.le_iff_toNat_le.1 h₁, UInt32.le_iff_toNat_le.1 h₂⟩)
  · exact Or.inr (Or.inr rfl)

theorem not_isDigit_of_isUnitChar {c : Char} (h : isUnitChar c = true) : isDigit c = false := by
  have := toNat_of_isUnitChar h
  simp only [isDigit, Bool.and_eq_false_iff, decide_eq_false_iff_not]
  omega

theorem not_isBlank_of_isUnitChar {c : Char} (h : isUnitChar c = true) : isBlank c = false := by
  have := toNat_of_isUnitChar h
  simp only [isBlank, Bool.or_eq_false_iff, Bool.and_eq_false_iff, decide_eq_false_iff_not,
    beq_eq_false_iff_ne]
  omega

theorem not_isBlank_of_isDigit {c : Char} (h : isDigit c = true) : isBlank c = false := by
  simp only [isDigit, Bool.and_eq_true, decide_eq_true_eq] at h
  simp only [isBlank, Bool.or_eq_false_iff, Bool.and_eq_false_iff, decide_eq_false_iff_not,
    beq_eq_false_iff_ne]
  omega

theorem spacedDigits_append {digits : List Char} (h : ∀ c ∈ digits, isDigit c = true) {c : Char}
    (hc : isUnitChar c = true) (rest : List Char) :
    spacedDigits (digits ++ c :: rest) = (digits, c :: rest) := by
  have hinside : ∀ d ∈ digits, (isDigit d || isBlank d) = true := fun d hd => by
    rw [h d hd, Bool.true_or]
  have hstop : EndsRun (fun d => isDigit d || isBlank d) (c :: rest) := endsRun_cons (by
    rw [not_isDigit_of_isUnitChar hc, not_isBlank_of_isUnitChar hc, Bool.or_false]) rest
  simp only [spacedDigits, takeWhile_run hinside hstop, dropWhile_run hinside hstop,
    List.filter_eq_self.2 h]

/-- A blank character, an amount and the name of its unit. -/
theorem addWritten?_amount {n : Nat} (hn : n < amountLimit) {name : List Char} {u : TimeUnit}
    (hname : name ≠ []) (hchars : ∀ c ∈ name, isUnitChar c = true)
    (hunit : TimeUnit.ofName? (String.ofList name) = some u) {rest : List Char}
    (hrest : EndsRun isUnitChar rest) (fuel : Nat) (d : Duration) :
    addWritten? (fuel + 1) d (' ' :: (decimal n ++ (name ++ rest))) =
      (d.plusAmount? u n none).bind fun d => addWritten? fuel d rest := by
  obtain ⟨a, digits, hdecimal⟩ := List.exists_cons_of_ne_nil (decimal_ne_nil n)
  obtain ⟨b, tail, htail⟩ := List.exists_cons_of_ne_nil hname
  have hdigits : ∀ c ∈ a :: digits, isDigit c = true := by
    rw [← hdecimal]
    exact fun c hc => isDigit_of_mem_decimal hc
  have hvalue := decimalValue?_decimal n
  rw [hdecimal] at hvalue ⊢
  have ha := hdigits a List.mem_cons_self
  have hb : isUnitChar b = true := hchars b (htail ▸ List.mem_cons_self)
  have hblank : (' ' :: (a :: digits ++ (name ++ rest))).dropWhile isBlank =
      a :: (digits ++ (name ++ rest)) := by
    rw [List.dropWhile_cons_of_pos (by decide), List.cons_append,
      List.dropWhile_cons_of_neg (by rw [not_isBlank_of_isDigit ha]; exact Bool.false_ne_true)]
  have hspaced : spacedDigits (a :: (digits ++ (name ++ rest))) = (a :: digits, name ++ rest) := by
    rw [htail]
    exact spacedDigits_append hdigits hb (tail ++ rest)
  have hdot : b ≠ '.' := by
    rintro rfl
    cases hb
  rw [addWritten?, hblank]
  simp only [ha, hspaced, hvalue, Bool.not_true, Bool.false_eq_true, if_false,
    Option.bind_eq_bind, Option.bind_some, bounded, if_pos hn]
  split
  · rename_i heq
    rw [htail] at heq
    exact absurd (List.cons.inj heq).1 hdot
  · simp only [takeWhile_run hchars hrest, dropWhile_run hchars hrest, hunit, Option.bind_some]

/-! ## Sums -/

theorem ofParts_of_lt (seconds : Nat) {n : Nat} (h : n < nanosecondsPerSecond) :
    ofParts seconds n = ⟨seconds, n, h⟩ :=
  ext (by simp only [ofParts, Nat.div_eq_of_lt h, Nat.add_zero]) (Nat.mod_eq_of_lt h)

theorem plus?_seconds {d d' : Duration} {n : Nat} (hs : d'.seconds = d.seconds + n)
    (hn : d'.nanoseconds = d.nanoseconds) (hlimit : d'.seconds < amountLimit) :
    d.plus? n .seconds = some d' := by
  have hbound : n < amountLimit := by omega
  have hsum : ofParts (d.seconds + n) d.nanoseconds = d' := by
    rw [ofParts_of_lt _ d.nanoseconds_lt]
    exact ext hs.symm hn.symm
  simp only [plus?, bounded, if_pos hbound, Option.bind_eq_bind, Option.bind_some, hsum,
    if_pos hlimit]

theorem plus?_nanoseconds {d d' : Duration} {n : Nat} (hs : d'.seconds = d.seconds)
    (hn : d'.nanoseconds = d.nanoseconds + n) (hlimit : d'.seconds < amountLimit) :
    d.plus? n .nanoseconds = some d' := by
  have hlt : d.nanoseconds + n < nanosecondsPerSecond := hn ▸ d'.nanoseconds_lt
  have hfew : nanosecondsPerSecond < amountLimit := by decide
  have hbound : n < amountLimit := by omega
  have hbound' : d.nanoseconds + n < amountLimit := by omega
  have hsum : ofParts d.seconds (d.nanoseconds + n) = d' := by
    rw [ofParts_of_lt _ hlt]
    exact ext hs.symm hn.symm
  simp only [plus?, bounded, if_pos hbound, if_pos hbound', Option.bind_eq_bind, Option.bind_some,
    hsum, if_pos hlimit]

/-- The texts, blank characters in front of each. -/
def spaced (texts : List String) : List Char := texts.flatMap fun t => ' ' :: t.toList

theorem length_le_spaced (texts : List String) : texts.length ≤ (spaced texts).length := by
  induction texts with
  | nil => exact Nat.le_refl _
  | cons t texts ih =>
    have hspaced : spaced (t :: texts) = ' ' :: (t.toList ++ spaced texts) := rfl
    rw [hspaced, List.length_cons, List.length_cons, List.length_append]
    omega

/-- Texts that add so many seconds and nanoseconds. -/
def Adds (texts : List String) (seconds nanoseconds : Nat) : Prop :=
  ∀ ⦃d d' : Duration⦄, d'.seconds = d.seconds + seconds →
    d'.nanoseconds = d.nanoseconds + nanoseconds → d'.seconds < amountLimit →
      ∀ fuel rest, EndsRun isUnitChar rest →
        addWritten? (fuel + texts.length) d (spaced texts ++ rest) = addWritten? fuel d' rest

theorem Adds.nil : Adds [] 0 0 := by
  intro d d' hs hn _ fuel rest _
  obtain rfl : d = d' := ext hs.symm hn.symm
  rfl

theorem endsRun_spaced (texts : List String) {rest : List Char} (h : EndsRun isUnitChar rest) :
    EndsRun isUnitChar (spaced texts ++ rest) := by
  cases texts with
  | nil => exact h
  | cons t texts => exact endsRun_cons (by decide) _

theorem Adds.append {texts others : List String} {s n s' n' : Nat} (h : Adds texts s n)
    (h' : Adds others s' n') : Adds (texts ++ others) (s + s') (n + n') := by
  intro d d' hs hn hlimit fuel rest hrest
  have hlt : d.nanoseconds + n < nanosecondsPerSecond := by
    have := d'.nanoseconds_lt
    omega
  let between : Duration := ⟨d.seconds + s, d.nanoseconds + n, hlt⟩
  have hbetween : between.seconds = d.seconds + s ∧ between.nanoseconds = d.nanoseconds + n :=
    ⟨rfl, rfl⟩
  have hfirst := h hbetween.1 hbetween.2 (by omega) (fuel + others.length) (spaced others ++ rest)
    (endsRun_spaced others hrest)
  have hsecond := @h' between d' (by omega) (by omega) hlimit fuel rest hrest
  rw [List.length_append, Nat.add_comm texts.length, ← Nat.add_assoc, spaced, List.flatMap_append,
    List.append_assoc, ← spaced, ← spaced, hfirst, hsecond]

/-- What one of a unit is, found by a name of it. -/
def sizeOf? (name : String) : Option (Nat × Grain) :=
  (TimeUnit.ofName? name).map fun u => (u.size, u.grain)

/-- Is this made of the characters of names of units? -/
def isUnitName (name : String) : Bool := !name.toList.isEmpty && name.toList.all isUnitChar

section Amounts

variable (name : String) (size : Nat) (hname : isUnitName name = true) (hpos : 0 < size)

include hname

theorem adds_one {grain : Grain} (hsize : sizeOf? name = some (size, grain)) {n s m : Nat}
    (hn : n ≤ n * size) (hplus : ∀ {d d' : Duration}, d'.seconds = d.seconds + s →
      d'.nanoseconds = d.nanoseconds + m → d'.seconds < amountLimit →
        n * size < amountLimit ∧ d.plus? (n * size) grain = some d') :
    Adds [n.repr ++ name] s m := by
  rw [isUnitName, Bool.and_eq_true, Bool.not_eq_true', List.isEmpty_eq_false_iff,
    List.all_eq_true] at hname
  obtain ⟨u, hu, heq⟩ := Option.map_eq_some_iff.1 hsize
  obtain ⟨rfl, rfl⟩ := Prod.mk.inj heq
  intro d d' hs hm hlimit fuel rest hrest
  obtain ⟨hbound, hsum⟩ := hplus hs hm hlimit
  have hamount : d.plusAmount? u n none = some d' := by
    simp only [plusAmount?, bounded, if_pos hbound, Option.bind_eq_bind, Option.bind_some, hsum]
  have hunit : TimeUnit.ofName? (String.ofList name.toList) = some u := by
    rwa [String.ofList_toList]
  have htext : spaced [n.repr ++ name] ++ rest = ' ' :: (decimal n ++ (name.toList ++ rest)) := by
    rw [spaced, List.flatMap_singleton, String.toList_append, toList_repr, List.cons_append,
      List.append_assoc]
  rw [htext, List.length_singleton, addWritten?_amount (Nat.lt_of_le_of_lt hn hbound) hname.1
    hname.2 hunit hrest, hamount, Option.bind_some]

include hpos

theorem adds_seconds (hsize : sizeOf? name = some (size, .seconds)) (n : Nat) :
    Adds (amountText n name) (n * size) 0 := by
  unfold amountText
  split
  · rename_i hn
    rw [hn, Nat.zero_mul]
    exact Adds.nil
  · refine adds_one name size hname hsize (Nat.le_mul_of_pos_right n hpos) fun hs hm hlimit => ⟨?_, ?_⟩
    · omega
    · exact plus?_seconds hs hm hlimit

theorem adds_nanoseconds (hsize : sizeOf? name = some (size, .nanoseconds)) (n : Nat) :
    Adds (amountText n name) 0 (n * size) := by
  unfold amountText
  split
  · rename_i hn
    rw [hn, Nat.zero_mul]
    exact Adds.nil
  · refine adds_one name size hname hsize (Nat.le_mul_of_pos_right n hpos) fun {_ d'} hs hm hlimit => ⟨?_, ?_⟩
    · have hlt := d'.nanoseconds_lt
      have hfew : nanosecondsPerSecond < amountLimit := by decide
      omega
    · exact plus?_nanoseconds hs hm hlimit

theorem adds_countText (hsize : sizeOf? name = some (size, .seconds))
    (hplural : isUnitName (name ++ "s") = true)
    (hsize' : sizeOf? (name ++ "s") = some (size, .seconds)) (n : Nat) :
    Adds (countText n name) (n * size) 0 := by
  unfold countText
  split
  · exact adds_seconds name size hname hpos hsize n
  · exact adds_seconds _ size hplural hpos hsize' n

end Amounts

/-! ## All amounts -/

def amounts (d : Duration) : List String :=
  let inYear := d.seconds % secondsPerYear
  let inMonth := inYear % secondsPerMonth
  let inDay := inMonth % 86400
  countText (d.seconds / secondsPerYear) "year" ++
    countText (inYear / secondsPerMonth) "month" ++ countText (inMonth / 86400) "day" ++
    amountText (inDay / 3600) "h" ++ amountText (inDay % 3600 / 60) "m" ++
    amountText (inDay % 60) "s" ++ amountText (d.nanoseconds / 1000000) "ms" ++
    amountText (d.nanoseconds / 1000 % 1000) "us" ++ amountText (d.nanoseconds % 1000) "ns"

theorem written_eq (d : Duration) :
    d.written = if d.isZero then "0s" else " ".intercalate d.amounts := rfl

theorem adds_amounts (d : Duration) : Adds d.amounts d.seconds d.nanoseconds := by
  have hyear := adds_countText "year" secondsPerYear (by decide) (by decide) (by decide)
    (by decide) (by decide)
  have hmonth := adds_countText "month" secondsPerMonth (by decide) (by decide) (by decide)
    (by decide) (by decide)
  have hday := adds_countText "day" 86400 (by decide) (by decide) (by decide) (by decide)
    (by decide)
  have hhour := adds_seconds "h" 3600 (by decide) (by decide) (by decide)
  have hminute := adds_seconds "m" 60 (by decide) (by decide) (by decide)
  have hsecond := adds_seconds "s" 1 (by decide) (by decide) (by decide)
  have hmilli := adds_nanoseconds "ms" 1000000 (by decide) (by decide) (by decide)
  have hmicro := adds_nanoseconds "us" 1000 (by decide) (by decide) (by decide)
  have hnano := adds_nanoseconds "ns" 1 (by decide) (by decide) (by decide)
  have hall := ((((((((hyear (d.seconds / secondsPerYear)).append
    (hmonth (d.seconds % secondsPerYear / secondsPerMonth))).append
    (hday (d.seconds % secondsPerYear % secondsPerMonth / 86400))).append
    (hhour (d.seconds % secondsPerYear % secondsPerMonth % 86400 / 3600))).append
    (hminute (d.seconds % secondsPerYear % secondsPerMonth % 86400 % 3600 / 60))).append
    (hsecond (d.seconds % secondsPerYear % secondsPerMonth % 86400 % 60))).append
    (hmilli (d.nanoseconds / 1000000))).append (hmicro (d.nanoseconds / 1000 % 1000))).append
    (hnano (d.nanoseconds % 1000))
  have hseconds : d.seconds = d.seconds / secondsPerYear * secondsPerYear +
      d.seconds % secondsPerYear / secondsPerMonth * secondsPerMonth +
      d.seconds % secondsPerYear % secondsPerMonth / 86400 * 86400 +
      d.seconds % secondsPerYear % secondsPerMonth % 86400 / 3600 * 3600 +
      d.seconds % secondsPerYear % secondsPerMonth % 86400 % 3600 / 60 * 60 +
      d.seconds % secondsPerYear % secondsPerMonth % 86400 % 60 * 1 + 0 + 0 + 0 := by
    simp only [secondsPerYear, secondsPerMonth]
    omega
  have hnanoseconds : d.nanoseconds = 0 + 0 + 0 + 0 + 0 + 0 + d.nanoseconds / 1000000 * 1000000 +
      d.nanoseconds / 1000 % 1000 * 1000 + d.nanoseconds % 1000 * 1 := by
    omega
  rw [← hseconds, ← hnanoseconds] at hall
  exact hall

/-- A text with a digit and a character of a unit in it. -/
def HasAmount (t : String) : Prop :=
  ∃ a ∈ t.toList, ∃ b ∈ t.toList, isDigit a = true ∧ isUnitChar b = true

theorem hasAmount_of_mem_amountText {n : Nat} {name t : String} (hname : isUnitName name = true)
    (h : t ∈ amountText n name) : HasAmount t := by
  unfold amountText at h
  split at h
  · cases h
  · rw [List.mem_singleton.1 h]
    rw [isUnitName, Bool.and_eq_true, Bool.not_eq_true', List.isEmpty_eq_false_iff,
      List.all_eq_true] at hname
    obtain ⟨a, ha⟩ := List.exists_mem_of_ne_nil _ (decimal_ne_nil n)
    obtain ⟨b, hb⟩ := List.exists_mem_of_ne_nil _ hname.1
    have htext : (n.repr ++ name).toList = decimal n ++ name.toList := by
      rw [String.toList_append, toList_repr]
    rw [HasAmount, htext]
    exact ⟨a, List.mem_append_left _ ha, b, List.mem_append_right _ hb,
      isDigit_of_mem_decimal ha, hname.2 b hb⟩

theorem hasAmount_of_mem_amounts {d : Duration} {t : String} (h : t ∈ d.amounts) :
    HasAmount t := by
  have hcount {n : Nat} {name : String} (hname : isUnitName name = true)
      (hplural : isUnitName (name ++ "s") = true) (h : t ∈ countText n name) : HasAmount t := by
    unfold countText at h
    split at h
    · exact hasAmount_of_mem_amountText hname h
    · exact hasAmount_of_mem_amountText hplural h
  simp only [amounts, List.mem_append] at h
  obtain (((((((h | h) | h) | h) | h) | h) | h) | h) | h := h
  · exact hcount (by decide) (by decide) h
  · exact hcount (by decide) (by decide) h
  · exact hcount (by decide) (by decide) h
  all_goals exact hasAmount_of_mem_amountText (by decide) h

theorem toList_intercalate_blank (t : String) (texts : List String) :
    (" ".intercalate (t :: texts)).toList = t.toList ++ spaced texts := by
  rw [String.toList_intercalate]
  induction texts generalizing t with
  | nil => simp [spaced]
  | cons u texts ih =>
    have hblank : " ".toList = [' '] := by rfl
    rw [List.map_cons, List.map_cons, List.intercalate_cons_cons, ← List.map_cons, ih, hblank,
      spaced, spaced, List.flatMap_cons, List.append_assoc]
    rfl

theorem addWritten?_blank (fuel : Nat) (d : Duration) (s : List Char) :
    addWritten? (fuel + 1) d (' ' :: s) = addWritten? (fuel + 1) d s := by
  rw [addWritten?, addWritten?, List.dropWhile_cons_of_pos (by decide)]

theorem eq_zero_of_amounts {d : Duration} (h : d.amounts = []) (hlimit : d.seconds < amountLimit) :
    d = ofSeconds 0 := by
  have hadds := d.adds_amounts
  rw [h] at hadds
  have hsame := hadds (d := ofSeconds 0) (Nat.zero_add _).symm (Nat.zero_add _).symm hlimit 1 []
    endsRun_nil
  exact (Option.some.inj hsame).symm

/-- **A duration that is written in words is read back**, if its seconds fit a count. -/
theorem ofWritten?_written {d : Duration} (h : d.seconds < amountLimit) :
    ofWritten? d.written = some d := by
  rw [written_eq]
  split
  · rename_i hzero
    simp only [isZero, Bool.and_eq_true, beq_iff_eq] at hzero
    obtain rfl : d = ofSeconds 0 := ext hzero.1 hzero.2
    rfl
  · rename_i hzero
    cases hamounts : d.amounts with
    | nil =>
      rw [eq_zero_of_amounts hamounts h] at hzero
      exact absurd rfl hzero
    | cons t texts =>
      obtain ⟨a, ha, b, hb, hdigit, hunit⟩ := hasAmount_of_mem_amounts
        (hamounts ▸ List.mem_cons_self : t ∈ d.amounts)
      have htext := toList_intercalate_blank t texts
      have hadds := d.adds_amounts
      rw [hamounts] at hadds
      generalize " ".intercalate (t :: texts) = s at htext
      have hzero : s ≠ "0" := by
        rintro rfl
        have hb' : b ∈ "0".toList := htext ▸ List.mem_append_left _ hb
        have hb'' : b = '0' := List.mem_singleton.1 hb'
        rw [hb''] at hunit
        cases hunit
      have hblank : ¬s.toList.all isBlank = true := by
        rw [List.all_eq_true]
        intro hall
        have := hall a (htext ▸ List.mem_append_left _ ha)
        rw [not_isBlank_of_isDigit hdigit] at this
        cases this
      have hlength : (t :: texts).length ≤ s.toList.length := by
        have hpos := List.length_pos_of_mem ha
        have hmore := length_le_spaced texts
        rw [htext, List.length_append, List.length_cons]
        omega
      obtain ⟨fuel, hfuel⟩ := Nat.exists_eq_add_of_le hlength
      have hread := hadds (d := ofSeconds 0) (Nat.zero_add _).symm (Nat.zero_add _).symm h
        (fuel + 1) [] endsRun_nil
      have hspaced : spaced (t :: texts) ++ [] = ' ' :: s.toList := by
        rw [htext, List.append_nil]
        rfl
      have hsum : fuel + 1 + (t :: texts).length = s.toList.length + 1 := by omega
      rw [hspaced, hsum, addWritten?_blank] at hread
      rw [ofWritten?, if_neg hzero, if_neg hblank, hread]
      rfl

theorem seconds_lt_of_plus? {d d' : Duration} {n : Nat} {grain : Grain}
    (h : d.plus? n grain = some d') : d'.seconds < amountLimit := by
  have hsum {seconds nanoseconds : Nat}
      (h : (if (ofParts seconds nanoseconds).seconds < amountLimit then
        some (ofParts seconds nanoseconds) else none) = some d') : d'.seconds < amountLimit := by
    split at h
    · rename_i hlt
      rwa [← Option.some.inj h]
    · cases h
  cases grain <;> simp only [plus?, Option.bind_eq_bind, Option.bind_eq_some_iff] at h
  · obtain ⟨_, -, _, -, h⟩ := h
    exact hsum h
  · obtain ⟨_, -, _, -, _, -, h⟩ := h
    exact hsum h

theorem seconds_lt_of_plusAmount? {d d' : Duration} {u : TimeUnit} {n : Nat}
    {fraction : Option (List Char)} (h : d.plusAmount? u n fraction = some d') :
    d'.seconds < amountLimit := by
  simp only [plusAmount?, Option.bind_eq_bind, Option.bind_eq_some_iff] at h
  obtain ⟨_, -, between, hbetween, h⟩ := h
  cases fraction with
  | none => exact Option.some.inj h ▸ seconds_lt_of_plus? hbetween
  | some digits =>
    simp only [Option.bind_eq_some_iff] at h
    obtain ⟨_, -, _, -, _, -, _, -, h⟩ := h
    split at h
    · exact seconds_lt_of_plus? h
    · cases h

theorem seconds_lt_of_addWritten? {fuel : Nat} {d d' : Duration} {s : List Char}
    (hd : d.seconds < amountLimit) (h : addWritten? fuel d s = some d') :
    d'.seconds < amountLimit := by
  induction fuel generalizing d s with
  | zero => cases h
  | succ fuel ih =>
    rw [addWritten?] at h
    split at h
    · exact Option.some.inj h ▸ hd
    · split at h
      · cases h
      · simp only [Option.bind_eq_bind, Option.bind_eq_some_iff] at h
        obtain ⟨_, -, _, -, _, -, between, hbetween, h⟩ := h
        exact ih (seconds_lt_of_plusAmount? hbetween) h

/-- Words never write a greater duration. -/
theorem seconds_lt_of_ofWritten? {s : String} {d : Duration} (h : ofWritten? s = some d) :
    d.seconds < amountLimit := by
  unfold ofWritten? at h
  split at h
  · exact Option.some.inj h ▸ by decide
  · split at h
    · cases h
    · exact seconds_lt_of_addWritten? (by decide) h

end LoginGate.Duration
