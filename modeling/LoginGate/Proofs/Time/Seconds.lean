import LoginGate.Proofs.Number.Positional
import LoginGate.Proofs.Time.Written

/-!
# Durations in seconds, read back

`ofSecondsText?` reads a decimal fraction of a second with at most nine digits behind its point.  The
text of a duration is always a decimal fraction.  It is that of the duration itself iff the number
that it went through has no shorter and no nearer one:

    ofSecondsText? d.secondsText = some d ↔
      d.nanoseconds = 0 ∨ ∃ x, d.toBinary64? = some x ∧ d.IsShortestFor x     (secondsText_exact_iff)

For spans up to ninety days this says that rounding twice gave what rounding once gives.
-/

namespace LoginGate.Duration

open LoginGate.Text LoginGate.Number LoginGate.Number.Binary64

/-! ## Lengths -/

def inSeconds (d : Duration) : ℚ := d.total / nanosecondsPerSecond

theorem total_inj {d e : Duration} (h : d.total = e.total) : d = e := by
  have hd := d.nanoseconds_lt
  have he := e.nanoseconds_lt
  simp only [total, nanosecondsPerSecond] at h hd he
  exact ext (by omega) (by omega)

theorem nanosecondsPerSecond_pos : (0 : ℚ) < nanosecondsPerSecond := by
  norm_num [nanosecondsPerSecond]

theorem inSeconds_inj {d e : Duration} (h : d.inSeconds = e.inSeconds) : d = e := by
  rw [inSeconds, inSeconds, div_left_inj' nanosecondsPerSecond_pos.ne'] at h
  exact total_inj (by exact_mod_cast h)

theorem total_ofParts (seconds nanoseconds : ℕ) :
    (ofParts seconds nanoseconds).total = seconds * nanosecondsPerSecond + nanoseconds := by
  have hsum : (seconds + nanoseconds / nanosecondsPerSecond) * nanosecondsPerSecond +
      nanoseconds % nanosecondsPerSecond = seconds * nanosecondsPerSecond + nanoseconds := by
    rw [Nat.add_mul, Nat.add_assoc, Nat.div_add_mod']
  exact hsum

theorem one_le_abs_sub {m n : ℕ} (h : m ≠ n) : (1 : ℚ) ≤ |(m : ℚ) - n| := by
  have hne : (m : ℤ) - n ≠ 0 := fun h' => h (Int.natCast_inj.1 (sub_eq_zero.1 h'))
  exact_mod_cast Int.one_le_abs hne

theorem one_le_sub {d e : Duration} (h : d ≠ e) :
    1 / (nanosecondsPerSecond : ℚ) ≤ |d.inSeconds - e.inSeconds| := by
  have hscale := nanosecondsPerSecond_pos
  rw [inSeconds, inSeconds, ← sub_div, abs_div, abs_of_pos hscale]
  exact div_le_div_of_nonneg_right (one_le_abs_sub fun h' => h (total_inj h')) hscale.le

/-! ## Reading -/

/-- The duration that a decimal fraction of a second writes, with one to nine digits behind its
point, if there is one. -/
def ofSecondsText? (s : String) : Option Duration :=
  let whole := s.toList.takeWhile isDigit
  match s.toList.dropWhile isDigit with
  | ['s'] => (decimalValue? whole).map ofSeconds
  | '.' :: rest =>
    let fraction := rest.takeWhile isDigit
    if rest.dropWhile isDigit = ['s'] ∧ fraction.length ≤ 9 then do
      let seconds ← decimalValue? whole
      let numerator ← decimalValue? fraction
      some (ofParts seconds (numerator * tenTo (9 - fraction.length)))
    else none
  | _ => none

/-- The text of a decimal fraction of a second. -/
def fractionText (before after : List Char) : String :=
  String.ofList (before ++ (if after = [] then [] else '.' :: after) ++ ['s'])

/-- A decimal fraction is read as the duration that it stands for, if there is one. -/
theorem ofSecondsText?_fractionText {q : ℚ} {before after : List Char} (h : Writes q before after)
    (d : Duration) : ofSecondsText? (fractionText before after) = some d ↔ d.inSeconds = q := by
  have hbefore : ∀ c ∈ before, isDigit c = true := fun c hc =>
    h.isDigit c (List.mem_append_left _ hc)
  have hafter : ∀ c ∈ after, isDigit c = true := fun c hc =>
    h.isDigit c (List.mem_append_right _ hc)
  have hs : EndsRun isDigit ['s'] := endsRun_cons rfl []
  have hvalue := decimalValue?_digits h.ne_nil hbefore
  -- it suffices that what is read stands for the fraction
  have hread {e : Duration} (he : e.inSeconds = q) : some e = some d ↔ d.inSeconds = q := by
    rw [Option.some_inj]
    exact ⟨fun h' => h' ▸ he, fun h' => inSeconds_inj (he.trans h'.symm)⟩
  unfold ofSecondsText? fractionText
  rw [String.toList_ofList]
  by_cases hnil : after = []
  · have hq : Nat.ofDigitChars 10 before 0 = q := by
      rw [← h.value, hnil, numeralValue, List.append_nil, List.length_nil, pow_zero, div_one]
    rw [if_pos hnil, List.append_nil]
    simp only [takeWhile_run hbefore hs, dropWhile_run hbefore hs, hvalue, Option.map_some]
    refine hread ?_
    rw [inSeconds, ← hq]
    simp [ofSeconds, total, nanosecondsPerSecond]
  · have hdot : EndsRun isDigit ('.' :: (after ++ ['s'])) := endsRun_cons rfl _
    have hvalue' := decimalValue?_digits hnil hafter
    rw [if_neg hnil, List.append_assoc, List.cons_append]
    simp only [takeWhile_run hbefore hdot, dropWhile_run hbefore hdot,
      takeWhile_run hafter hs, dropWhile_run hafter hs, hvalue, hvalue', true_and]
    have hdigits : q * 10 ^ after.length = Nat.ofDigitChars 10 (before ++ after) 0 := by
      rw [← h.value, numeralValue, div_mul_cancel₀ _ (by positivity)]
    split_ifs with hshort
    · refine hread ?_
      have hpower : (nanosecondsPerSecond : ℚ) =
          10 ^ after.length * (tenTo (9 - after.length) : ℕ) := by
        show ((10 ^ 9 : ℕ) : ℚ) = 10 ^ after.length * (10 ^ (9 - after.length) : ℕ)
        rw [Nat.cast_pow, Nat.cast_pow, Nat.cast_ofNat, ← pow_add, Nat.add_sub_cancel' hshort]
      rw [Nat.ofDigitChars_append, Nat.ofDigitChars_eq_ofDigitChars_zero] at hdigits
      push_cast at hdigits
      rw [inSeconds, total_ofParts, div_eq_iff nanosecondsPerSecond_pos.ne']
      push_cast
      rw [hpower, ← mul_assoc q, hdigits]
      ring
    · -- more digits than nine, the last of which is not zero
      refine iff_of_false not_false fun hd => ?_
      have hmod := ofDigitChars_mod_ten_ne h.isDigit (List.append_ne_nil_of_left_ne_nil h.ne_nil _)
        (by rw [List.getLast?_append_of_ne_nil _ hnil]; exact h.getLast?)
      obtain ⟨n, hn⟩ : ∃ n, after.length = 9 + (n + 1) := ⟨after.length - 10, by omega⟩
      have hpower : (10 : ℚ) ^ after.length = nanosecondsPerSecond * 10 ^ (n + 1) := by
        rw [hn, pow_add]
        norm_num [nanosecondsPerSecond]
      rw [← hd, inSeconds, hpower, ← mul_assoc, div_mul_cancel₀ _ nanosecondsPerSecond_pos.ne']
        at hdigits
      have hnat : d.total * 10 ^ (n + 1) = Nat.ofDigitChars 10 (before ++ after) 0 := by
        exact_mod_cast hdigits
      rw [← hnat, pow_succ, ← Nat.mul_assoc] at hmod
      exact hmod (Nat.mul_mod_left _ _)

/-! ## The duration that a number is written as -/

/-- A number of decimals with which a duration can be written. -/
theorem exists_decimals (d : Duration) : ∃ k, tenTo (9 - k) ∣ d.total := ⟨9, one_dvd _⟩

/-- The number of decimals with which a duration is written. -/
def decimals (d : Duration) : ℕ := Nat.find d.exists_decimals

/-- The duration rounds to `x`, and any other that does has more decimals, or as many and is farther
from `x`, or as far and then the last decimal of `d` is even. -/
structure IsShortestFor (d : Duration) (x : Binary64) : Prop where
  rounds : x.Rounds d.inSeconds
  fewest : ∀ e : Duration, x.Rounds e.inSeconds → d.decimals ≤ e.decimals
  nearest : ∀ e : Duration, x.Rounds e.inSeconds → e.decimals = d.decimals →
    |d.inSeconds - x.magnitude| ≤ |e.inSeconds - x.magnitude|
  even : ∀ e : Duration, x.Rounds e.inSeconds → e.decimals = d.decimals → e ≠ d →
    |e.inSeconds - x.magnitude| = |d.inSeconds - x.magnitude| →
      d.total / tenTo (9 - d.decimals) % 2 = 0

theorem tenTo_dvd_total (d : Duration) : tenTo (9 - d.decimals) ∣ d.total :=
  Nat.find_spec d.exists_decimals

theorem decimals_le_nine (d : Duration) : d.decimals ≤ 9 := Nat.find_min' _ (one_dvd _)

/-- The duration of so many units of a decimal. -/
theorem inSeconds_of_total {d : Duration} {k n : ℕ} (hk : k ≤ 9)
    (h : d.total = n * tenTo (9 - k)) : d.inSeconds = n * 10 ^ (-(k : ℤ)) := by
  have hpower : (nanosecondsPerSecond : ℚ) = 10 ^ k * (tenTo (9 - k) : ℕ) := by
    show ((10 ^ 9 : ℕ) : ℚ) = 10 ^ k * (10 ^ (9 - k) : ℕ)
    rw [Nat.cast_pow, Nat.cast_pow, Nat.cast_ofNat, ← pow_add, Nat.add_sub_cancel' hk]
  have ht := tenTo_pos (9 - k)
  rw [inSeconds, h, hpower, zpow_neg, zpow_natCast]
  push_cast
  field_simp

theorem onGrid_iff (d : Duration) {k : ℕ} (hk : k ≤ 9) :
    OnGrid (-(k : ℤ)) d.inSeconds ↔ tenTo (9 - k) ∣ d.total := by
  constructor
  · rintro ⟨n, hn⟩
    have hexists : (ofParts 0 (n * tenTo (9 - k))).inSeconds = n * 10 ^ (-(k : ℤ)) :=
      inSeconds_of_total hk (by rw [total_ofParts, Nat.zero_mul, Nat.zero_add])
    rw [inSeconds_inj (hn.trans hexists.symm), total_ofParts, Nat.zero_mul, Nat.zero_add]
    exact Nat.dvd_mul_left _ _
  · rintro ⟨n, hn⟩
    exact ⟨n, inSeconds_of_total hk (by rw [hn, Nat.mul_comm])⟩

theorem decimals_le_iff (d : Duration) {k : ℕ} (hk : k ≤ 9) :
    d.decimals ≤ k ↔ OnGrid (-(k : ℤ)) d.inSeconds := by
  rw [onGrid_iff d hk]
  constructor
  · intro h
    exact (Nat.pow_dvd_pow 10 (Nat.sub_le_sub_left h 9)).trans d.tenTo_dvd_total
  · exact fun h => Nat.find_min' d.exists_decimals h

theorem inSeconds_eq (d : Duration) :
    d.inSeconds = (d.total / tenTo (9 - d.decimals) : ℕ) * 10 ^ (-(d.decimals : ℤ)) :=
  inSeconds_of_total d.decimals_le_nine
    (Nat.div_mul_cancel d.tenTo_dvd_total).symm

theorem decimals_pos {d : Duration} (h : d.nanoseconds ≠ 0) : 0 < d.decimals := by
  by_contra h'
  have hdvd : tenTo 9 ∣ d.total :=
    (onGrid_iff d (Nat.zero_le 9)).1 ((decimals_le_iff d (Nat.zero_le 9)).1 (not_lt.1 h'))
  rw [total, show nanosecondsPerSecond = tenTo 9 from rfl, Nat.dvd_add_right (Nat.dvd_mul_left _ _)]
    at hdvd
  exact h (Nat.eq_zero_of_dvd_of_lt hdvd d.nanoseconds_lt)

/-- Between two even points of a grid there is a nearer one. -/
theorem IsShortestFor.le {d e : Duration} {x : Binary64} (hd : d.IsShortestFor x)
    (he : e.IsShortestFor x) : e.inSeconds ≤ d.inSeconds := by
  by_contra hlt
  rw [not_le] at hlt
  have hne : e ≠ d := fun h => hlt.ne (by rw [h])
  have hk : e.decimals = d.decimals :=
    Nat.le_antisymm (he.fewest d hd.rounds) (hd.fewest e he.rounds)
  have hdist : |e.inSeconds - x.magnitude| = |d.inSeconds - x.magnitude| :=
    le_antisymm (he.nearest d hd.rounds hk.symm) (hd.nearest e he.rounds hk)
  have hmiddle : x.magnitude - d.inSeconds = e.inSeconds - x.magnitude := by
    obtain h | h := abs_eq_abs.1 hdist <;> linarith
  have heven := hd.even e he.rounds hk hne hdist
  have heven' := he.even d hd.rounds hk.symm hne.symm hdist.symm
  have hdval := d.inSeconds_eq
  have heval := e.inSeconds_eq
  rw [hk] at heval heven'
  set a := d.total / tenTo (9 - d.decimals)
  set b := e.total / tenTo (9 - d.decimals)
  set u : ℚ := 10 ^ (-(d.decimals : ℤ))
  have hu : 0 < u := by positivity
  have hab : a + 2 ≤ b := by
    rw [hdval, heval, mul_lt_mul_iff_of_pos_right hu, Nat.cast_lt] at hlt
    omega
  have hab' : ((a + 2 : ℕ) : ℚ) * u ≤ b * u :=
    mul_le_mul_of_nonneg_right (by exact_mod_cast hab) hu.le
  push_cast at hab'
  -- the point after the lesser one
  have hc : (ofParts 0 ((a + 1) * tenTo (9 - d.decimals))).inSeconds = (a + 1 : ℕ) * u :=
    inSeconds_of_total d.decimals_le_nine (by rw [total_ofParts, Nat.zero_mul, Nat.zero_add])
  push_cast at hc
  have hround := hd.rounds.between he.rounds (q := (a + 1 : ℚ) * u) (by linarith) (by linarith)
  rw [← hc] at hround
  have hdecimals := le_antisymm ((decimals_le_iff _ d.decimals_le_nine).2 ⟨a + 1, by
    push_cast; exact hc⟩) (hd.fewest _ hround)
  have hnear := hd.nearest _ hround hdecimals
  rw [hc, abs_of_neg (by linarith), abs_of_nonpos (by linarith)] at hnear
  linarith

/-- There is one duration that a number is written as. -/
theorem IsShortestFor.eq {d e : Duration} {x : Binary64} (hd : d.IsShortestFor x)
    (he : e.IsShortestFor x) : d = e :=
  inSeconds_inj (le_antisymm (he.le hd) (hd.le he))

section

variable {d : Duration} {x : Binary64} (hx : x.InFormat) (hd : d.total ≠ 0)
  (h : x.Rounds d.inSeconds)

include hd in
theorem one_le_inSeconds : 1 / (nanosecondsPerSecond : ℚ) ≤ d.inSeconds :=
  div_le_div_of_nonneg_right (by exact_mod_cast Nat.pos_of_ne_zero hd) nanosecondsPerSecond_pos.le

include hx hd h in
theorem full_of_rounds : 2 ^ 52 ≤ x.mantissa := by
  refine (hx.full_of_rounds h ?_).2
  calc (2 : ℚ) ^ (-100 : ℤ) ≤ 1 / nanosecondsPerSecond := by norm_num [nanosecondsPerSecond]
    _ ≤ d.inSeconds := one_le_inSeconds hd

include h in
/-- If two durations round to a number then its unit is at least a nanosecond. -/
theorem le_unit {e : Duration} (he : x.Rounds e.inSeconds) (hne : d ≠ e) :
    1 / (nanosecondsPerSecond : ℚ) ≤ 2 ^ x.exponent := by
  have hapart := one_le_sub hne
  have hnear := h.abs_sub_le
  have hnear' := he.abs_sub_le
  have htriangle := abs_sub_le d.inSeconds x.magnitude e.inSeconds
  rw [abs_sub_comm x.magnitude] at htriangle
  linarith

include hx hd h in
/-- If two durations round to a number then it is at least one. -/
theorem one_le_magnitude {e : Duration} (he : x.Rounds e.inSeconds) (hne : d ≠ e) :
    1 ≤ x.magnitude := by
  have hfull : (2 : ℚ) ^ 52 ≤ x.mantissa := by exact_mod_cast full_of_rounds hx hd h
  have hunit := le_unit h he hne
  calc (1 : ℚ) ≤ 2 ^ 52 * (1 / nanosecondsPerSecond) := by norm_num [nanosecondsPerSecond]
    _ ≤ x.mantissa * 2 ^ x.exponent :=
        mul_le_mul hfull hunit (one_div_pos.2 nanosecondsPerSecond_pos).le (Nat.cast_nonneg _)

include hx hd h in
/-- A number that a duration rounds to is not below the least one. -/
theorem inSeconds_le_magnitude : 1 / (nanosecondsPerSecond : ℚ) ≤ x.magnitude := by
  by_contra hlt
  have hone : x.Rounds (((1 : ℕ) : ℚ) / nanosecondsPerSecond) := by
    rw [Nat.cast_one]
    exact x.rounds_magnitude.between h (not_le.1 hlt).le (one_le_inSeconds hd)
  -- the number next to it is a little greater
  have hx' : ofRatio x.negative 1 nanosecondsPerSecond = some x :=
    (ofRatio_eq_some_iff one_pos (Nat.zero_lt_succ _)).2 ⟨rfl, hx, hone⟩
  have hvalue : ofRatio x.negative 1 nanosecondsPerSecond =
      some ⟨x.negative, 4835703278458517, -82⟩ := by
    cases x.negative <;> decide +kernel
  have hmantissa : x.mantissa = 4835703278458517 := by
    rw [← Option.some.inj (hvalue.symm.trans hx')]
  have hexponent : x.exponent = -82 := by
    rw [← Option.some.inj (hvalue.symm.trans hx')]
  apply hlt
  rw [magnitude, hmantissa, hexponent]
  norm_num [nanosecondsPerSecond]

include hx hd h in
theorem neg_nine_le_log : -9 ≤ Int.log 10 x.magnitude := by
  have hm : x.mantissa ≠ 0 := by
    have := full_of_rounds hx hd h
    omega
  have := inSeconds_le_magnitude hx hd h
  rw [← Int.zpow_le_iff_le_log (by norm_num) (magnitude_pos hm)]
  norm_num [nanosecondsPerSecond] at this ⊢
  exact this

include hx hd h in
/-- The shortest decimal of a number that a duration rounds to is a duration. -/
theorem exists_inSeconds_eq_shortest : ∃ e : Duration, e.inSeconds = x.shortest.value ∧
    -9 ≤ x.shortest.exponent := by
  have hm : x.mantissa ≠ 0 := by
    have := full_of_rounds hx hd h
    omega
  have hgrid : OnGrid (-(9 : ℕ) : ℤ) d.inSeconds :=
    (decimals_le_iff d le_rfl).1 d.decimals_le_nine
  have hexponent : -9 ≤ x.shortest.exponent := by
    by_contra hlt
    exact (isShortest_shortest hx hm).coarsest (-9) (neg_nine_le_log hx hd h) (not_le.1 hlt) _
      hgrid h
  obtain ⟨n, hn⟩ := OnGrid.of_le (k := (-(9 : ℕ) : ℤ)) hexponent (onGrid_value x.shortest)
  refine ⟨ofParts 0 n, ?_, hexponent⟩
  rw [hn]
  exact inSeconds_of_total le_rfl (by
    rw [total_ofParts, Nat.zero_mul, Nat.zero_add]
    exact (Nat.mul_one n).symm)

include h in
/-- The shortest decimal is the shortest duration, if it has a fraction and no grid of decimals is
coarser than the number. -/
theorem isShortestFor_of_shortest (hshortest : x.IsShortest x.shortest)
    (hlog : 0 ≤ Int.log 10 x.magnitude) (hexponent : -9 ≤ x.shortest.exponent)
    (hneg : x.shortest.exponent < 0) (hvalue : d.inSeconds = x.shortest.value) :
    d.IsShortestFor x := by
  obtain ⟨k, hk⟩ := Int.eq_ofNat_of_zero_le (neg_nonneg.2 hneg.le)
  have hk' : x.shortest.exponent = -(k : ℤ) := by omega
  have hnine : k ≤ 9 := by omega
  have hcoarse {e : Duration} (he : x.Rounds e.inSeconds) : k ≤ e.decimals := by
    by_contra hlt
    exact hshortest.coarsest (-(e.decimals : ℤ)) (by omega) (by omega) _
      ((decimals_le_iff e e.decimals_le_nine).1 le_rfl) he
  have hgrid : OnGrid (-(k : ℤ)) d.inSeconds := by
    rw [hvalue, ← hk']
    exact onGrid_value _
  have hdecimals : d.decimals = k := le_antisymm ((decimals_le_iff d hnine).2 hgrid) (hcoarse h)
  have hnearest := hshortest.isNearestOn
  rw [hk'] at hnearest
  have hdigits : d.inSeconds = x.shortest.digits * 10 ^ (-(k : ℤ)) := by
    rw [hvalue, Decimal.value, hk']
  refine ⟨h, fun e he => hdecimals.trans_le (hcoarse he), fun e he hsame => ?_,
    fun e he hsame hne hdist => ?_⟩
  all_goals
    rw [hdecimals] at hsame
    have heval := e.inSeconds_eq
    rw [hsame] at heval
    rw [heval] at he
  · rw [heval, hdigits]
    exact hnearest.nearest _ he
  · have hlast : d.total / tenTo (9 - d.decimals) = x.shortest.digits := by
      have hdval := d.inSeconds_eq
      rw [hdecimals, hdigits, mul_left_inj' (by positivity)] at hdval
      rw [hdecimals]
      exact_mod_cast hdval.symm
    rw [heval, hdigits] at hdist
    rw [hlast]
    refine hnearest.even _ he (fun heq => hne ?_) hdist
    exact inSeconds_inj (by rw [heval, heq, hdigits])

include hx h in
/-- **The shortest decimal of a number is a duration with a fraction iff that duration is the
shortest for the number.** -/
theorem isShortestFor_iff (hfraction : d.nanoseconds ≠ 0) :
    d.IsShortestFor x ↔ d.inSeconds = x.shortest.value := by
  have hd : d.total ≠ 0 := by
    rw [total]
    omega
  have hm : x.mantissa ≠ 0 := by
    have := full_of_rounds hx hd h
    omega
  have hshortest := isShortest_shortest hx hm
  obtain ⟨e, he, hexponent⟩ := exists_inSeconds_eq_shortest hx hd h
  have hround : x.Rounds e.inSeconds := he ▸ rounds_shortest hx hm
  by_cases hone : 1 ≤ x.magnitude
  · have hlog : 0 ≤ Int.log 10 x.magnitude := by
      rw [← Int.zpow_le_iff_le_log (by norm_num) (magnitude_pos hm)]
      exact_mod_cast hone
    -- a decimal that is a whole number has no fraction
    have hneg {e : Duration} (he : e.inSeconds = x.shortest.value) (hpos : 0 < e.decimals) :
        x.shortest.exponent < 0 := by
      by_contra hle
      have hwhole : OnGrid (-((0 : ℕ) : ℤ)) e.inSeconds := by
        rw [he]
        exact OnGrid.of_le (not_lt.1 hle) (onGrid_value _)
      exact absurd hpos (not_lt.2 ((decimals_le_iff e (Nat.zero_le 9)).2 hwhole))
    constructor
    · intro hbest
      have hpos := (decimals_pos hfraction).trans_le (hbest.fewest e hround)
      rw [hbest.eq (isShortestFor_of_shortest hround hshortest hlog hexponent (hneg he hpos) he)]
      exact he
    · intro hvalue
      exact isShortestFor_of_shortest h hshortest hlog hexponent
        (hneg hvalue (decimals_pos hfraction)) hvalue
  · -- only one duration rounds to the number
    have hunique {e : Duration} (hround : x.Rounds e.inSeconds) : d = e :=
      not_not.1 fun hne => hone (one_le_magnitude hx hd h hround hne)
    rw [← he]
    exact iff_of_true ⟨h, fun e he => (hunique he ▸ le_rfl), fun e he _ => (hunique he ▸ le_rfl),
      fun e he _ hne => absurd (hunique he).symm hne⟩ (congrArg inSeconds (hunique hround))

end

/-! ## The text -/

theorem toBinary64?_of_parts {d : Duration} {w f x : Binary64} (hw : ofNat? d.seconds = some w)
    (hf : ofRatio false d.nanoseconds nanosecondsPerSecond = some f)
    (hx : w.addMagnitudes f = some x) : d.toBinary64? = some x := by
  rw [toBinary64?, hw, hf]
  exact hx

theorem exists_toBinary64? {d : Duration} (h : d.seconds < twoTo 64) (hfraction : d.nanoseconds ≠ 0) :
    ∃ x, d.toBinary64? = some x ∧ x.negative = false ∧ x.InFormat ∧ x.mantissa ≠ 0 := by
  have hscale := nanosecondsPerSecond_pos
  have hden : 0 < nanosecondsPerSecond := Nat.zero_lt_succ _
  have hseconds : (d.seconds : ℚ) / (1 : ℕ) < 2 ^ 64 := by
    rw [Nat.cast_one, div_one]
    exact_mod_cast h
  have hpart : (d.nanoseconds : ℚ) / nanosecondsPerSecond < 1 := by
    rw [div_lt_one hscale]
    exact_mod_cast d.nanoseconds_lt
  have hpart' : 1 / nanosecondsPerSecond ≤ (d.nanoseconds : ℚ) / nanosecondsPerSecond :=
    div_le_div_of_nonneg_right (by exact_mod_cast Nat.pos_of_ne_zero hfraction) hscale.le
  have hnano : 2 * 2 ^ (-100 : ℤ) ≤ 1 / (nanosecondsPerSecond : ℚ) := by
    norm_num [nanosecondsPerSecond]
  obtain ⟨w, hw⟩ := exists_ofRatio false one_pos (hseconds.trans_le (by linarith))
  obtain ⟨f, hf⟩ := exists_ofRatio false hden (hpart.trans_le (by linarith))
  obtain ⟨-, -, hwround⟩ := rounds_of_ofRatio one_pos hw
  obtain ⟨-, hfformat, hfround⟩ := rounds_of_ofRatio hden hf
  have hffull := (hfformat.full_of_rounds hfround (by linarith)).2
  -- neither part is far from what it rounds
  have hwmax := hwround.magnitude_le (by positivity)
  have hfmax := hfround.magnitude_le (by linarith)
  have hfmin := hfround.le_magnitude (by omega)
  have hwmin : 0 ≤ w.magnitude := mul_nonneg (Nat.cast_nonneg _) (by positivity)
  obtain ⟨x, hx, hsign, hformat, hround⟩ :=
    exists_addMagnitudes (show w.magnitude + f.magnitude < 2 ^ 100 by linarith)
  have hfmin' : 2 ^ (-100 : ℤ) ≤ f.magnitude :=
    le_of_mul_le_mul_left (hnano.trans (hpart'.trans hfmin)) two_pos
  have hfull := (hformat.full_of_rounds hround (hfmin'.trans (le_add_of_nonneg_left hwmin))).2
  exact ⟨x, toBinary64?_of_parts hw hf hx, hsign, hformat, by omega⟩

/-- The text is a decimal fraction: that of the seconds, or the shortest one for the number that
the fraction went through. -/
theorem secondsText_eq {d : Duration} (h : d.seconds < twoTo 64) :
    ∃ q before after, Writes q before after ∧ d.secondsText = fractionText before after ∧
      (d.nanoseconds = 0 ∧ q = d.inSeconds ∨ d.nanoseconds ≠ 0 ∧ ∃ x, d.toBinary64? = some x ∧
        x.InFormat ∧ x.mantissa ≠ 0 ∧ q = x.shortest.value) := by
  by_cases hfraction : d.nanoseconds = 0
  · have hvalue : Nat.ofDigitChars 10 (decimal d.seconds) 0 = d.seconds :=
      Nat.ofDigitChars_toDigits (by decide) (by decide)
    have hlength : (d.seconds : ℚ) = d.inSeconds := by
      rw [inSeconds, total, hfraction, eq_div_iff nanosecondsPerSecond_pos.ne']
      push_cast
      ring
    refine ⟨d.seconds, decimal d.seconds, [], ⟨decimal_ne_nil _, fun c hc => ?_, by simp, ?_⟩, ?_,
      Or.inl ⟨hfraction, hlength⟩⟩
    · rw [List.append_nil] at hc
      exact isDigit_of_mem_decimal hc
    · rw [numeralValue, List.append_nil, hvalue, List.length_nil, pow_zero, div_one]
    · rw [secondsText, if_pos hfraction, fractionText, if_pos rfl, List.append_nil]
  · obtain ⟨x, hx, hsign, hformat, hm⟩ := exists_toBinary64? h hfraction
    obtain ⟨before, after, hwrites, htext⟩ :=
      positional_eq (leads_leadingForm (shortest_digits_ne_zero hformat hm)) []
    refine ⟨_, before, after, hwrites, ?_, Or.inr ⟨hfraction, x, hx, hformat, hm, rfl⟩⟩
    rw [secondsText, if_neg hfraction, hx]
    dsimp only
    have hplain : x.plainText = x.signText ++ positional x.leadingForm.1 x.leadingForm.2 [] := rfl
    rw [hplain, htext, signText, hsign, if_neg Bool.false_ne_true, List.nil_append, fractionText]

/-- The text is a decimal fraction, of zero only for no time at all. -/
theorem exists_fractionText {d : Duration} (h : d.seconds < twoTo 64) :
    ∃ whole fraction, d.secondsText = fractionText whole fraction ∧ whole ≠ [] ∧
      (∀ c ∈ whole ++ fraction, isDigit c = true) ∧
      ((∀ c ∈ whole ++ fraction, c = '0') ↔ d.total = 0) := by
  obtain ⟨q, before, after, hwrites, htext, hcases⟩ := secondsText_eq h
  refine ⟨before, after, htext, hwrites.ne_nil, hwrites.isDigit, ?_⟩
  rw [← numeralValue_eq_zero hwrites.isDigit, hwrites.value]
  obtain ⟨-, rfl⟩ | ⟨hfraction, x, -, hformat, hm, rfl⟩ := hcases
  · rw [inSeconds, div_eq_zero_iff, or_iff_left nanosecondsPerSecond_pos.ne', Nat.cast_eq_zero]
  · refine iff_of_false ((rounds_shortest hformat hm).pos hm).ne' ?_
    rw [total]
    omega

theorem ofSecondsText?_secondsText {d : Duration} (h : d.seconds < twoTo 64) :
    ofSecondsText? d.secondsText = some d ↔
      d.nanoseconds = 0 ∨ ∃ x, d.toBinary64? = some x ∧ d.IsShortestFor x := by
  obtain ⟨q, before, after, hwrites, htext, hcases⟩ := secondsText_eq h
  rw [htext, ofSecondsText?_fractionText hwrites d]
  obtain ⟨hwhole, rfl⟩ | ⟨hfraction, x, hx, hformat, hm, rfl⟩ := hcases
  · exact iff_of_true rfl (Or.inl hwhole)
  · rw [or_iff_right hfraction, hx]
    constructor
    · intro hvalue
      have hround : x.Rounds d.inSeconds := hvalue ▸ rounds_shortest hformat hm
      exact ⟨x, rfl, (isShortestFor_iff hformat hround hfraction).2 hvalue⟩
    · rintro ⟨y, hy, hbest⟩
      obtain rfl := Option.some.inj hy
      exact (isShortestFor_iff hformat hbest.rounds hfraction).1 hbest

/-! ## Short spans -/

/-- Below `2 ^ 23` seconds the numbers are closer than nanoseconds. -/
theorem isShortestFor_of_lt {d : Duration} {x : Binary64} (hx : x.InFormat) (hd : d.total ≠ 0)
    (hlt : d.seconds < twoTo 23) (h : x.Rounds d.inSeconds) : d.IsShortestFor x := by
  have hunique {e : Duration} (he : x.Rounds e.inSeconds) : d = e := by
    by_contra hne
    have hunit := le_unit h he hne
    have hexponent : -29 ≤ x.exponent := by
      by_contra hsmall
      have hpow : (2 : ℚ) ^ x.exponent ≤ 2 ^ (-30 : ℤ) :=
        zpow_le_zpow_right₀ one_le_two (by omega)
      have hnano : (2 : ℚ) ^ (-30 : ℤ) < 1 / nanosecondsPerSecond := by
        norm_num [nanosecondsPerSecond]
      exact (hunit.trans hpow).not_gt hnano
    have hfull : (2 : ℚ) ^ 52 ≤ x.mantissa := by exact_mod_cast full_of_rounds hx hd h
    have hbelow := x.quartersBelow_le
    have hlow : (2 ^ 52 - 1 / 2 : ℚ) * 2 ^ (-29 : ℤ) ≤ d.inSeconds :=
      (mul_le_mul (by linarith) (zpow_le_zpow_right₀ one_le_two hexponent) (by positivity)
        (by linarith)).trans h.low
    have htotal : d.total + 1 ≤ twoTo 23 * nanosecondsPerSecond := by
      have hseconds : (d.seconds + 1) * nanosecondsPerSecond ≤ twoTo 23 * nanosecondsPerSecond :=
        Nat.mul_le_mul_right _ hlt
      have hpart := d.nanoseconds_lt
      rw [Nat.add_mul, Nat.one_mul] at hseconds
      rw [total]
      omega
    have hhigh : d.inSeconds ≤ (2 ^ 23 * nanosecondsPerSecond - 1) / nanosecondsPerSecond := by
      have hcast : (d.total : ℚ) + 1 ≤ 2 ^ 23 * nanosecondsPerSecond := by exact_mod_cast htotal
      exact div_le_div_of_nonneg_right (by linarith) nanosecondsPerSecond_pos.le
    norm_num [nanosecondsPerSecond] at hlow hhigh
    linarith
  exact ⟨h, fun e he => (hunique he ▸ le_rfl), fun e he _ => (hunique he ▸ le_rfl),
    fun e he _ hne => absurd (hunique he).symm hne⟩

theorem toBinary64?_eq_ofRatio_iff {d : Duration} (h : d.seconds < twoTo 23)
    (hfraction : d.nanoseconds ≠ 0) :
    d.toBinary64? = ofRatio false d.total nanosecondsPerSecond ↔
      ∃ x, d.toBinary64? = some x ∧ d.IsShortestFor x := by
  have hd : 0 < d.total := by
    rw [total]
    omega
  have hden : 0 < nanosecondsPerSecond := Nat.zero_lt_succ _
  obtain ⟨x, hx, hsign, hformat, hm⟩ :=
    exists_toBinary64? (h.trans (by decide)) hfraction
  rw [hx]
  constructor
  · intro honce
    have hround := ((ofRatio_eq_some_iff hd hden).1 honce.symm).2.2
    exact ⟨x, rfl, isShortestFor_of_lt hformat hd.ne' h hround⟩
  · rintro ⟨y, hy, hbest⟩
    obtain rfl := Option.some.inj hy
    exact ((ofRatio_eq_some_iff hd hden).2 ⟨hsign, hformat, hbest.rounds⟩).symm

/-- Without whole seconds there is nothing to round twice. -/
theorem toBinary64?_of_seconds_zero {d : Duration} (h : d.seconds = 0)
    (hfraction : d.nanoseconds ≠ 0) :
    d.toBinary64? = ofRatio false d.total nanosecondsPerSecond := by
  have hden : 0 < nanosecondsPerSecond := Nat.zero_lt_succ _
  have hpart : (d.nanoseconds : ℚ) / nanosecondsPerSecond < 1 := by
    rw [div_lt_one nanosecondsPerSecond_pos]
    exact_mod_cast d.nanoseconds_lt
  obtain ⟨f, hf⟩ := exists_ofRatio false hden (hpart.trans_le (by norm_num))
  obtain ⟨hsign, hformat, hround⟩ := rounds_of_ofRatio hden hf
  have hzero := magnitude_zero false
  have hmax := hround.magnitude_le (by positivity)
  obtain ⟨x, hx, hsign', hformat', hround'⟩ :=
    exists_addMagnitudes (show (zero false).magnitude + f.magnitude < 2 ^ 100 by
      rw [hzero]
      linarith)
  have htotal : d.total = d.nanoseconds := by rw [total, h, Nat.zero_mul, Nat.zero_add]
  rw [hzero, zero_add] at hround'
  have hpos : 0 < f.magnitude := by
    refine magnitude_pos ?_
    have := full_of_rounds hformat (d := d) (htotal ▸ hfraction) (by rw [inSeconds, htotal]; exact hround)
    omega
  have hnone : ofNat? d.seconds = some (zero false) := by
    rw [h]
    rfl
  rw [toBinary64?_of_parts hnone hf hx, htotal, hf, Rounds.eq hformat' hformat (hsign'.trans hsign.symm) hpos hround'
    f.rounds_magnitude]

/-- **The text of a duration is a decimal fraction, of zero only for no time at all.  It is read
back iff the duration is a whole number of seconds, or the shortest one for the number that it went
through: below `2 ^ 23` seconds, iff rounding its parts and then their sum gave what rounding once
gives, and always below one second.** -/
theorem secondsText_exact_iff {d : Duration} (h : d.seconds < twoTo 64) :
    (∃ whole fraction, d.secondsText = fractionText whole fraction ∧ whole ≠ [] ∧
      (∀ c ∈ whole ++ fraction, isDigit c = true) ∧
      ((∀ c ∈ whole ++ fraction, c = '0') ↔ d.total = 0)) ∧
    (ofSecondsText? d.secondsText = some d ↔
      d.nanoseconds = 0 ∨ ∃ x, d.toBinary64? = some x ∧ d.IsShortestFor x) ∧
    (d.seconds < twoTo 23 → (ofSecondsText? d.secondsText = some d ↔
      d.nanoseconds = 0 ∨ d.toBinary64? = ofRatio false d.total nanosecondsPerSecond)) ∧
    (d.seconds = 0 → ofSecondsText? d.secondsText = some d) := by
  have hread := ofSecondsText?_secondsText h
  have hshort (hlt : d.seconds < twoTo 23) : ofSecondsText? d.secondsText = some d ↔
      d.nanoseconds = 0 ∨ d.toBinary64? = ofRatio false d.total nanosecondsPerSecond := by
    rw [hread]
    by_cases hfraction : d.nanoseconds = 0
    · exact iff_of_true (Or.inl hfraction) (Or.inl hfraction)
    · rw [toBinary64?_eq_ofRatio_iff hlt hfraction]
  refine ⟨exists_fractionText h, hread, hshort, fun hzero => ?_⟩
  rw [hshort (by rw [hzero]; decide)]
  by_cases hfraction : d.nanoseconds = 0
  · exact Or.inl hfraction
  · exact Or.inr (toBinary64?_of_seconds_zero hzero hfraction)

/-- A second and 118 milliseconds are rounded twice, to sixteen digits that are no duration. -/
theorem secondsText_exact_iff_rounded_twice :
    let d : Duration := ⟨1, 118000000, by decide⟩
    d.secondsText = "1.1179999999999999s" ∧
      d.toBinary64? ≠ ofRatio false d.total nanosecondsPerSecond := by
  intro d
  have htext : d.secondsText = "1.1179999999999999s" := by decide +kernel
  have hread : ofSecondsText? d.secondsText ≠ some d := by
    rw [htext]
    decide +kernel
  have hlt : d.seconds < twoTo 23 := by decide
  have hshort := (secondsText_exact_iff (hlt.trans (by decide))).2.2.1 hlt
  exact ⟨htext, fun honce => hread (hshort.2 (Or.inr honce))⟩

end LoginGate.Duration
