import LoginGate.Toml.Reader
import Mathlib.Data.List.TakeWhile

/-!
# Quoted texts, written and read
-/

namespace LoginGate.Toml

open LoginGate.Text

/-! ## Escapes -/

theorem codePoint?_fourDigits {n : Nat} (h : n < 128) (rest : List Char) :
    codePoint? 4 (fourDigits n ++ rest) = some (Char.ofNat n, rest) := by
  have hdigits : ∀ n < 128, (fourDigits n).length = 4 ∧ numeral? 16 (fourDigits n) = some n ∧
      n.isValidChar := by
    decide +kernel
  obtain ⟨hlength, hvalue, hvalid⟩ := hdigits n h
  have htake : (fourDigits n ++ rest).take 4 = fourDigits n := by rw [← hlength, List.take_left]
  have hdrop : (fourDigits n ++ rest).drop 4 = rest := by rw [← hlength, List.drop_left]
  simp only [codePoint?, htake, hdrop, hvalue, Option.bind_eq_bind, Option.bind_some]
  exact if_pos ⟨hlength, hvalid⟩

theorem toNat_lt_of_isControl {c : Char} (h : isControl c = true) : c.toNat < 128 := by
  simp only [isControl, Bool.or_eq_true, Bool.and_eq_true, decide_eq_true_eq] at h
  omega

/-- A character between double quotes stands for itself or is an escape. -/
theorem escapedChar_cases (overLines : Bool) (run : Nat) (c : Char) :
    (escapedChar overLines run c = [c] ∧ c ≠ '\\' ∧ (c = '"' → overLines = true ∧ run < 2) ∧
      (isControl c = true → c = '\n' ∧ overLines = true)) ∨
    ∃ e, escapedChar overLines run c = '\\' :: e ∧ ∀ rest, escape? (e ++ rest) = some (c, rest) := by
  unfold escapedChar
  split
  · exact Or.inr ⟨_, rfl, fun rest => rfl⟩
  · exact Or.inr ⟨_, rfl, fun rest => rfl⟩
  · cases overLines
    · exact Or.inr ⟨_, rfl, fun rest => rfl⟩
    · exact Or.inl ⟨rfl, by decide, fun h => absurd h (by decide), fun _ => ⟨rfl, rfl⟩⟩
  · exact Or.inr ⟨_, rfl, fun rest => rfl⟩
  · exact Or.inr ⟨_, rfl, fun rest => rfl⟩
  · exact Or.inr ⟨_, rfl, fun rest => rfl⟩
  · by_cases h : run < if overLines then 2 else 0
    · rw [if_pos h]
      cases overLines
      · exact absurd h (Nat.not_lt_zero _)
      · exact Or.inl ⟨rfl, by decide, fun _ => ⟨rfl, h⟩, by decide⟩
    · rw [if_neg h]
      exact Or.inr ⟨_, rfl, fun rest => rfl⟩
  · rename_i h1 h2 h3
    by_cases h : isControl c = true
    · rw [if_pos h]
      refine Or.inr ⟨_, rfl, fun rest => ?_⟩
      have hc := codePoint?_fourDigits (toNat_lt_of_isControl h) rest
      rw [Char.ofNat_toNat] at hc
      exact hc
    · rw [if_neg h]
      exact Or.inl ⟨rfl, h2, fun hq => absurd hq h3, fun hc => absurd hc h⟩

theorem length_le_escaped (overLines : Bool) (run : Nat) (s : List Char) :
    s.length ≤ (escaped overLines run s).length := by
  induction s generalizing run with
  | nil => exact Nat.zero_le _
  | cons c s ih =>
    rw [escaped, List.length_append, List.length_cons]
    have hs := ih (if escapedChar overLines run c = ['"'] then run + 1 else 0)
    have hc : 1 ≤ (escapedChar overLines run c).length := by
      obtain ⟨h, -⟩ | ⟨e, h, -⟩ := escapedChar_cases overLines run c <;> rw [h] <;> simp
    omega

/-! ## One line -/

theorem line?_char {quote c : Char} (hquote : c ≠ quote) (hescape : ¬ (c = '\\' ∧ quote = '"'))
    (hcontrol : isControl c = false) (fuel : Nat) (rest : List Char) :
    line? quote (fuel + 1) (c :: rest) =
      (line? quote fuel rest).map fun (s, rest) => (c :: s, rest) := by
  rw [line?, if_neg hquote, if_neg hescape, if_neg (by rw [hcontrol]; exact Bool.false_ne_true)]

theorem line?_end (quote : Char) (fuel : Nat) (rest : List Char) :
    line? quote (fuel + 1) (quote :: rest) = some ([], rest) := by
  rw [line?, if_pos rfl]

theorem line?_escape {c : Char} {e rest : List Char} (h : escape? (e ++ rest) = some (c, rest))
    (fuel : Nat) : line? '"' (fuel + 1) ('\\' :: e ++ rest) =
      (line? '"' fuel rest).map fun (s, rest) => (c :: s, rest) := by
  rw [List.cons_append, line?, if_neg (by decide), if_pos ⟨rfl, rfl⟩, h]
  rfl

/-- An escaped text is read back up to its closing quote. -/
theorem line?_escaped (rest : List Char) {fuel : Nat} (run : Nat) {s : List Char}
    (hfuel : s.length < fuel) :
    line? '"' fuel (escaped false run s ++ '"' :: rest) = some (s, rest) := by
  induction s generalizing fuel run with
  | nil =>
    obtain ⟨fuel, rfl⟩ := Nat.exists_eq_succ_of_ne_zero (Nat.ne_of_gt hfuel)
    exact line?_end '"' fuel rest
  | cons c s ih =>
    obtain ⟨fuel, rfl⟩ := Nat.exists_eq_succ_of_ne_zero (Nat.ne_of_gt (Nat.zero_lt_of_lt hfuel))
    have hs := ih (if escapedChar false run c = ['"'] then run + 1 else 0)
      (Nat.lt_of_succ_lt_succ hfuel)
    rw [escaped, List.append_assoc]
    obtain ⟨h, hb, hq, hc⟩ | ⟨e, h, he⟩ := escapedChar_cases false run c
    · rw [h] at hs ⊢
      have hcontrol : isControl c = false := by
        cases hcc : isControl c
        · rfl
        · exact absurd (hc hcc).2 Bool.false_ne_true
      rw [List.singleton_append, line?_char (fun h' => absurd (hq h').1 Bool.false_ne_true)
        (fun h' => hb h'.1) hcontrol, hs]
      rfl
    · rw [h] at hs ⊢
      rw [line?_escape (he _), hs]
      rfl

/-- A text without its quote and without control characters is read as it is. -/
theorem line?_verbatim (rest : List Char) {fuel : Nat} {s : List Char}
    (hquote : '\'' ∉ s) (hcontrol : ∀ c ∈ s, isControl c = false) (hfuel : s.length < fuel) :
    line? '\'' fuel (s ++ '\'' :: rest) = some (s, rest) := by
  induction s generalizing fuel with
  | nil =>
    obtain ⟨fuel, rfl⟩ := Nat.exists_eq_succ_of_ne_zero (Nat.ne_of_gt hfuel)
    exact line?_end '\'' fuel rest
  | cons c s ih =>
    obtain ⟨fuel, rfl⟩ := Nat.exists_eq_succ_of_ne_zero (Nat.ne_of_gt (Nat.zero_lt_of_lt hfuel))
    have hne : c ≠ '\'' := fun h => hquote (h ▸ List.mem_cons_self)
    rw [List.cons_append, line?_char hne (fun h => absurd h.2 (by decide))
      (hcontrol c List.mem_cons_self), ih (fun h => hquote (List.mem_cons_of_mem _ h))
        (fun d hd => hcontrol d (List.mem_cons_of_mem _ hd)) (Nat.lt_of_succ_lt_succ hfuel)]
    rfl

/-! ## Several lines -/

theorem takeWhile_quotes {quote : Char} (n : Nat) {rest : List Char} (h : rest.head? ≠ some quote) :
    (List.replicate n quote ++ rest).takeWhile (· = quote) = List.replicate n quote := by
  induction n with
  | zero =>
    match rest with
    | [] => rfl
    | c :: rest =>
      have hc : c ≠ quote := fun h' => h (h' ▸ rfl)
      simp [hc]
  | succ n ih => simp [List.replicate_succ, ih]

section

variable {quote : Char} (hreturn : quote ≠ '\r')
include hreturn

/-- Fewer than three quotes in a row stand for themselves. -/
theorem lines?_quote {fuel : Nat} {rest : List Char}
    (h : ((quote :: rest).takeWhile (· = quote)).length < 3) :
    lines? quote (fuel + 1) (quote :: rest) =
      (lines? quote fuel rest).map fun (s, rest) => (quote :: s, rest) := by
  rw [lines?, if_pos rfl]
  · simp only [if_pos h]
  · exact fun _ h => absurd h hreturn

/-- Up to two quotes may stand in front of the closing ones. -/
theorem lines?_end (fuel : Nat) {n : Nat} (hn : n ≤ 2) {rest : List Char}
    (h : rest.head? ≠ some quote) :
    lines? quote (fuel + 1) (List.replicate (n + 3) quote ++ rest) =
      some (List.replicate n quote, rest) := by
  have htake := takeWhile_quotes (n + 3) h
  rw [List.replicate_succ, List.cons_append] at htake ⊢
  rw [lines?, if_pos rfl]
  · simp only [htake]
    rw [if_neg (by simp), if_pos (by simp; omega)]
    simp
  · exact fun _ h => absurd h hreturn

end

theorem lines?_escape {c : Char} {e rest : List Char} (h : escape? (e ++ rest) = some (c, rest))
    (hbreak : afterBreak? ((e ++ rest).dropWhile isSpace) = none) (fuel : Nat) :
    lines? '"' (fuel + 1) ('\\' :: e ++ rest) =
      (lines? '"' fuel rest).map fun (s, rest) => (c :: s, rest) := by
  rw [List.cons_append, lines?, if_neg (by decide), if_pos ⟨rfl, rfl⟩, hbreak, h]
  · rfl
  · exact fun _ h => absurd h (by decide)

theorem lines?_char {quote c : Char} (hquote : c ≠ quote) (hescape : ¬ (c = '\\' ∧ quote = '"'))
    (hcontrol : isControl c = true → c = '\n') (fuel : Nat) (rest : List Char) :
    lines? quote (fuel + 1) (c :: rest) =
      (lines? quote fuel rest).map fun (s, rest) => (c :: s, rest) := by
  have hreturn : c ≠ '\r' := by
    rintro rfl
    exact absurd (hcontrol (by decide)) (by decide)
  rw [lines?, if_neg hquote, if_neg hescape, if_neg]
  · intro h
    rw [Bool.and_eq_true, bne_iff_ne] at h
    exact h.2 (hcontrol h.1)
  · exact fun _ h => absurd h hreturn

/-- What follows the backslash of an escape is not a space or a line break. -/
theorem afterBreak?_of_escape? {c : Char} {e rest : List Char}
    (h : escape? (e ++ rest) = some (c, rest)) :
    afterBreak? ((e ++ rest).dropWhile isSpace) = none := by
  match hs : e ++ rest with
  | [] => rfl
  | d :: t =>
    rw [hs] at h
    have hd : isSpace d = false ∧ d ≠ '\n' ∧ d ≠ '\r' := by
      refine ⟨?_, ?_, ?_⟩
      · by_contra hd
        rw [Bool.not_eq_false, isSpace, Bool.or_eq_true, decide_eq_true_eq, decide_eq_true_eq] at hd
        rcases hd with rfl | rfl <;> simp [escape?] at h
      · rintro rfl
        simp [escape?] at h
      · rintro rfl
        simp [escape?] at h
    rw [List.dropWhile_cons_of_neg (by rw [hd.1]; exact Bool.false_ne_true)]
    unfold afterBreak?
    split
    · rename_i heq
      exact absurd (List.cons.inj heq).1 hd.2.1
    · rename_i heq
      exact absurd (List.cons.inj heq).1 hd.2.2
    · rfl

/-! ### Escaped -/

/-- How many double quotes an escaped text begins with, after `run` of them: it holds nothing else,
or there are two in a row at most. -/
theorem escaped_quotes {run : Nat} (hrun : run ≤ 2) (s : List Char) :
    (∃ n, run + n ≤ 2 ∧ s = List.replicate n '"' ∧ escaped true run s = List.replicate n '"') ∨
    ∀ rest, run + ((escaped true run s ++ rest).takeWhile (· = '"')).length ≤ 2 := by
  induction s generalizing run with
  | nil => exact Or.inl ⟨0, hrun, rfl, rfl⟩
  | cons c s ih =>
    obtain ⟨h, -, hq, -⟩ | ⟨e, h, -⟩ := escapedChar_cases true run c
    · by_cases hc : c = '"'
      · subst hc
        have hs : escaped true run ('"' :: s) = '"' :: escaped true (run + 1) s := by
          rw [escaped, h]
          rfl
        have hlt : run + 1 ≤ 2 := (hq rfl).2
        rw [hs]
        obtain ⟨n, hn, rfl, he⟩ | hle := ih hlt
        · exact Or.inl ⟨n + 1, by omega, rfl, by rw [he]; rfl⟩
        · refine Or.inr fun rest => ?_
          have := hle rest
          rw [List.cons_append, List.takeWhile_cons_of_pos (by simp), List.length_cons]
          omega
      · refine Or.inr fun rest => ?_
        rw [escaped, h, List.append_assoc, List.singleton_append,
          List.takeWhile_cons_of_neg (by simpa using hc)]
        exact hrun
    · refine Or.inr fun rest => ?_
      rw [escaped, h, List.append_assoc, List.cons_append,
        List.takeWhile_cons_of_neg (by simp)]
      exact hrun

/-- An escaped text is read back up to its closing quotes. -/
theorem lines?_escaped {rest : List Char} (hrest : rest.head? ≠ some '"') {fuel run : Nat}
    {s : List Char} (hrun : run ≤ 2) (hfuel : s.length < fuel) :
    lines? '"' fuel (escaped true run s ++ ['"', '"', '"'] ++ rest) = some (s, rest) := by
  induction s generalizing fuel run with
  | nil =>
    obtain ⟨fuel, rfl⟩ := Nat.exists_eq_succ_of_ne_zero (Nat.ne_of_gt hfuel)
    exact lines?_end (by decide) fuel (Nat.zero_le 2) hrest
  | cons c s ih =>
    obtain ⟨fuel, rfl⟩ := Nat.exists_eq_succ_of_ne_zero (Nat.ne_of_gt (Nat.zero_lt_of_lt hfuel))
    have hfuel' : s.length < fuel := Nat.lt_of_succ_lt_succ hfuel
    obtain ⟨h, hb, hq, hc⟩ | ⟨e, h, he⟩ := escapedChar_cases true run c
    · by_cases hcq : c = '"'
      · subst hcq
        have hlt : run + 1 ≤ 2 := (hq rfl).2
        have hs : escaped true run ('"' :: s) = '"' :: escaped true (run + 1) s := by
          rw [escaped, h]
          rfl
        rw [hs]
        obtain ⟨n, hn, rfl, he⟩ | hle := escaped_quotes hlt s
        · -- the quotes at the end of the text run into the closing ones
          have hend : lines? '"' (fuel + 1) (List.replicate (n + 1 + 3) '"' ++ rest) = _ :=
            lines?_end (by decide) fuel (by omega) hrest
          rw [he, ← List.replicate_succ]
          rwa [← List.replicate_append_replicate] at hend
        · have hshort := hle (['"', '"', '"'] ++ rest)
          rw [List.cons_append, List.cons_append, lines?_quote (by decide), ih hlt hfuel']
          · rfl
          · rw [List.takeWhile_cons_of_pos (by simp), List.length_cons, List.append_assoc]
            omega
      · rw [escaped, h, if_neg (by simpa using hcq), List.singleton_append, List.cons_append,
          List.cons_append, lines?_char hcq (fun h' => hb h'.1) (fun h' => (hc h').1),
          ih (Nat.zero_le 2) hfuel']
        rfl
    · rw [escaped, h, if_neg (by simp), List.append_assoc, List.append_assoc]
      have hnext := ih (Nat.zero_le 2) hfuel'
      rw [List.append_assoc] at hnext
      rw [lines?_escape (he _) (afterBreak?_of_escape? (he _)), hnext]
      rfl

/-! ### As it is -/

/-- The state of counting runs after some more characters. -/
def countRuns (c : Char) (state : Nat × Nat) (s : List Char) : Nat × Nat :=
  s.foldl (fun (longest, run) d => if d = c then (longest, run + 1) else (max longest run, 0)) state

theorem le_countRuns (c : Char) (longest run : Nat) (s : List Char) :
    longest ≤ max (countRuns c (longest, run) s).1 (countRuns c (longest, run) s).2 ∧
    run + (s.takeWhile (· = c)).length ≤
      max (countRuns c (longest, run) s).1 (countRuns c (longest, run) s).2 := by
  induction s generalizing longest run with
  | nil =>
    simp only [countRuns, List.foldl_nil, List.takeWhile_nil, List.length_nil]
    omega
  | cons d s ih =>
    by_cases hd : d = c
    · have hstep : countRuns c (longest, run) (d :: s) = countRuns c (longest, run + 1) s := by
        simp only [countRuns, List.foldl_cons, if_pos hd]
      have := ih longest (run + 1)
      rw [hstep, List.takeWhile_cons_of_pos (by simpa using hd), List.length_cons]
      omega
    · have hstep : countRuns c (longest, run) (d :: s) = countRuns c (max longest run, 0) s := by
        simp only [countRuns, List.foldl_cons, if_neg hd]
      have := ih (max longest run) 0
      rw [hstep, List.takeWhile_cons_of_neg (by simpa using hd), List.length_nil]
      omega

/-- No run anywhere in a text is longer than the longest one. -/
theorem takeWhile_le_longestRun {c : Char} {s t : List Char} (h : t <:+ s) :
    (t.takeWhile (· = c)).length ≤ longestRun c s := by
  obtain ⟨u, rfl⟩ := h
  have hlongest : longestRun c (u ++ t) =
      max (countRuns c (countRuns c (0, 0) u) t).1 (countRuns c (countRuns c (0, 0) u) t).2 := by
    rw [longestRun, countRuns, countRuns, ← List.foldl_append]
  have := (le_countRuns c (countRuns c (0, 0) u).1 (countRuns c (0, 0) u).2 t).2
  rw [hlongest]
  exact Nat.le_trans (Nat.le_add_left _ _) this

theorem not_mem_of_longestRun {c : Char} {s : List Char} (h : longestRun c s = 0) : c ∉ s := by
  intro hc
  obtain ⟨u, v, rfl⟩ := List.append_of_mem hc
  have := takeWhile_le_longestRun (c := c) (List.suffix_append u (c :: v))
  rw [h, List.takeWhile_cons_of_pos (by simp)] at this
  exact absurd this (Nat.not_succ_le_zero _)

/-- A text with short runs of the quote is read as it is. -/
theorem lines?_verbatim {rest : List Char} (hrest : rest.head? ≠ some '\'') {fuel : Nat}
    {s : List Char} (hquotes : ∀ t, t <:+ s → (t.takeWhile (· = '\'')).length ≤ 2)
    (hcontrol : ∀ c ∈ s, isControl c = true → c = '\n') (hfuel : s.length < fuel) :
    lines? '\'' fuel (s ++ ['\'', '\'', '\''] ++ rest) = some (s, rest) := by
  induction s generalizing fuel with
  | nil =>
    obtain ⟨fuel, rfl⟩ := Nat.exists_eq_succ_of_ne_zero (Nat.ne_of_gt hfuel)
    exact lines?_end (by decide) fuel (Nat.zero_le 2) hrest
  | cons c s ih =>
    obtain ⟨fuel, rfl⟩ := Nat.exists_eq_succ_of_ne_zero (Nat.ne_of_gt (Nat.zero_lt_of_lt hfuel))
    have hnext := ih (fun t ht => hquotes t (ht.trans (List.suffix_cons c s)))
      (fun d hd => hcontrol d (List.mem_cons_of_mem _ hd)) (Nat.lt_of_succ_lt_succ hfuel)
    by_cases hc : c = '\''
    · subst hc
      by_cases hall : ∀ d ∈ s, d = '\''
      · -- the quotes at the end of the text run into the closing ones
        obtain hs : s = List.replicate s.length '\'' := List.eq_replicate_iff.2 ⟨rfl, hall⟩
        have hlength : s.length + 1 ≤ 2 := by
          have := hquotes _ List.suffix_rfl
          rwa [List.takeWhile_cons_of_pos (by simp), List.takeWhile_eq_self_iff.2 (by simpa using hall),
            List.length_cons] at this
        have hquote : '\'' ≠ '\r' := by decide
        have hend := lines?_end hquote fuel hlength hrest
        rwa [← List.replicate_append_replicate, List.replicate_succ, ← hs] at hend
      · have htake : (s ++ (['\'', '\'', '\''] ++ rest)).takeWhile (· = '\'') =
            s.takeWhile (· = '\'') := by
          rw [List.takeWhile_append, if_neg]
          intro hl
          refine hall fun d hd => ?_
          have hs := List.takeWhile_eq_self_iff.1
            ((List.takeWhile_prefix (· = '\'')).eq_of_length hl) d hd
          simpa using hs
        have hshort := hquotes _ List.suffix_rfl
        rw [List.takeWhile_cons_of_pos (by simp), List.length_cons] at hshort
        rw [List.cons_append, List.cons_append, lines?_quote (by decide), hnext]
        · rfl
        · rw [List.takeWhile_cons_of_pos (by simp), List.append_assoc, htake, List.length_cons]
          omega
    · rw [List.cons_append, List.cons_append, lines?_char hc (fun h => absurd h.2 (by decide))
        (hcontrol c List.mem_cons_self), hnext]
      rfl

/-! ## Quotes -/

theorem dropPrefix?_eq_none {quote : Char} {s : List Char}
    (h : s.head? = some quote → s.tail.head? ≠ some quote) :
    dropPrefix? [quote, quote] s = none := by
  match s with
  | [] => rfl
  | [c] => by_cases hc : quote = c <;> simp [dropPrefix?, hc]
  | c :: d :: s =>
    by_cases hc : quote = c
    · subst hc
      have hd : quote ≠ d := fun hd => h rfl (hd ▸ rfl)
      simp [dropPrefix?, hd]
    · simp [dropPrefix?, hc]

/-- A text on one line does not begin like one over several lines. -/
theorem quotedText?_line {quote : Char} {s : List Char}
    (h : s.head? = some quote → s.tail.head? ≠ some quote) :
    quotedText? quote s = line? quote (s.length + 1) s := by
  rw [quotedText?, dropPrefix?_eq_none h]

theorem quotedText?_lines (quote : Char) (s : List Char) :
    quotedText? quote (quote :: quote :: '\n' :: s) = lines? quote (s.length + 2) s := by
  have hdrop : dropPrefix? [quote, quote] (quote :: quote :: '\n' :: s) = some ('\n' :: s) := by
    simp [dropPrefix?]
  rw [quotedText?, hdrop]
  rfl

theorem head?_escaped_ne (run : Nat) (s rest : List Char) :
    (escaped false run s ++ '"' :: rest).head? = some '"' → s = [] := by
  match s with
  | [] => exact fun _ => rfl
  | c :: s =>
    intro h
    obtain ⟨he, -, hq, -⟩ | ⟨e, he, -⟩ := escapedChar_cases false run c
    · rw [escaped, he] at h
      exact absurd (hq (Option.some.inj h)).1 Bool.false_ne_true
    · rw [escaped, he] at h
      exact absurd (Option.some.inj h) (by decide)

variable {rest : List Char} (hdouble : rest.head? ≠ some '"') (hsingle : rest.head? ≠ some '\'')

include hdouble in
theorem quotedText?_escaped (s : List Char) :
    quotedText? '"' (escaped false 0 s ++ '"' :: rest) = some (s, rest) := by
  rw [quotedText?_line, line?_escaped rest 0]
  · have := length_le_escaped false 0 s
    rw [List.length_append]
    omega
  · intro h
    obtain rfl := head?_escaped_ne 0 s rest h
    exact hdouble

include hdouble in
theorem quotedText?_escapedLines (s : List Char) :
    quotedText? '"' ('"' :: '"' :: '\n' :: escaped true 0 s ++ ['"', '"', '"'] ++ rest) =
      some (s, rest) := by
  have hfuel : s.length < (escaped true 0 s ++ ['"', '"', '"'] ++ rest).length + 2 := by
    have := length_le_escaped true 0 s
    rw [List.length_append, List.length_append]
    omega
  have hlines := lines?_escaped hdouble (Nat.zero_le 2) hfuel
  rw [← hlines, ← quotedText?_lines]
  rfl

include hsingle in
theorem quotedText?_verbatim {s : List Char} (hquote : '\'' ∉ s)
    (hcontrol : ∀ c ∈ s, isControl c = false) :
    quotedText? '\'' (s ++ '\'' :: rest) = some (s, rest) := by
  rw [quotedText?_line, line?_verbatim rest hquote hcontrol]
  · rw [List.length_append]
    omega
  · intro h
    match s with
    | [] => exact hsingle
    | c :: s => exact absurd (Option.some.inj h ▸ List.mem_cons_self) hquote

include hsingle in
theorem quotedText?_verbatimLines {s : List Char} (hquotes : longestRun '\'' s ≤ 2)
    (hcontrol : ∀ c ∈ s, isControl c = true → c = '\n') :
    quotedText? '\'' ('\'' :: '\'' :: '\n' :: s ++ ['\'', '\'', '\''] ++ rest) = some (s, rest) := by
  have hfuel : s.length < (s ++ ['\'', '\'', '\''] ++ rest).length + 2 := by
    rw [List.length_append, List.length_append]
    omega
  have hlines := lines?_verbatim hsingle
    (fun t ht => Nat.le_trans (takeWhile_le_longestRun ht) hquotes) hcontrol hfuel
  rw [← hlines, ← quotedText?_lines]
  rfl

include hdouble hsingle in
/-- **A quoted text is read back**, up to the end of its quotes. -/
theorem value?_quoted (fuel depth : Nat) (s : List Char) :
    value? (fuel + 1) depth (quoted s ++ rest) = some (.text (String.ofList s), rest) := by
  have hdoubles (q : List Char) (h : quotedText? '"' (q ++ rest) = some (s, rest)) :
      value? (fuel + 1) depth ('"' :: q ++ rest) = some (.text (String.ofList s), rest) := by
    rw [List.cons_append, value?, h]
    rfl
  have hsingles (q : List Char) (h : quotedText? '\'' (q ++ rest) = some (s, rest)) :
      value? (fuel + 1) depth ('\'' :: q ++ rest) = some (.text (String.ofList s), rest) := by
    rw [List.cons_append, value?, h]
    rfl
  have hnoControl (h : (s.any fun c => isControl c && c != '\n') = false) :
      ∀ c ∈ s, isControl c = true → c = '\n' := by
    intro c hc hcontrol
    have := List.any_eq_false.1 h c hc
    simpa [hcontrol] using this
  have hnoLine (h : s.contains '\n' = false) : '\n' ∉ s := by simpa using h
  have hescaped : quotedText? '"' ((escaped false 0 s ++ ['"']) ++ rest) = some (s, rest) := by
    rw [List.append_assoc]
    exact quotedText?_escaped hdouble s
  have hescapedLines := quotedText?_escapedLines hdouble s
  unfold quoted
  simp only
  split
  · exact hdoubles _ hescaped
  · split
    · rename_i h
      simp only [Bool.and_eq_true, Bool.not_eq_true', decide_eq_true_eq] at h
      obtain ⟨⟨hcontrol, hsingles0⟩, hline⟩ := h
      have hnoQuote : '\'' ∉ s := not_mem_of_longestRun hsingles0
      have hplain : ∀ c ∈ s, isControl c = false := by
        intro c hc
        by_contra hcc
        obtain rfl := hnoControl hcontrol c hc (Bool.of_not_eq_false hcc)
        exact hnoLine hline hc
      refine hsingles (s ++ ['\'']) ?_
      rw [List.append_assoc]
      exact quotedText?_verbatim hsingle hnoQuote hplain
    · split
      · exact hdoubles _ hescapedLines
      · split
        · rename_i h
          simp only [Bool.and_eq_true, Bool.not_eq_true', decide_eq_true_eq] at h
          exact hsingles _ (quotedText?_verbatimLines hsingle h.2 (hnoControl h.1))
        · split
          · exact hdoubles _ hescapedLines
          · exact hdoubles _ hescaped

end LoginGate.Toml
