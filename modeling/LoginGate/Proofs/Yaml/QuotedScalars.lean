import LoginGate.Proofs.Text.Numerals
import LoginGate.Proofs.Yaml.Folds
import LoginGate.Proofs.Yaml.PlainScalars
import LoginGate.Yaml.QuotedScalar
import Mathlib.Data.Nat.Digits.Defs

/-!
# Quoted scalars, as they are written

What stands between quotes is cut into pieces as the scanner reads it: runs of spaces, runs of line
breaks with an indentation behind them, and other characters, each written by itself or by an escape
(`Pieces`).  A scanner that comes to such pieces reads their text (`quotedFrom?_pieces`), and both
kinds of quotes hold pieces (`pieces_singleQuoted`, `pieces_doubleQuoted`).
-/

namespace LoginGate.Yaml

open LoginGate.Text

/-! ## Pieces -/

/-- A character that is no gap, as it is written between quotes. -/
structure IsUnit (quote : Quote) (written : List Char) (c : Char) : Prop where
  noGap : ∀ rest, NoGap (written ++ rest)
  noQuote : ∀ rest, atClosingQuote quote (written ++ rest) = false
  noJoint : ∀ rest, atJoint quote (written ++ rest) = false
  read : ∀ rest, quotedUnit? quote (written ++ rest) = some (c, written.length)

/-- No line that separates documents begins here. -/
def NoMark (quote : Quote) (written : List Char) : Prop :=
  ∀ rest index line, (⟨written ++ quote.char :: rest, index, line, 0⟩
    : Cursor).atDocumentMark = false

/-- What stands between quotes, as it is written, and its text.  A line behind breaks is indented, or
it does not separate documents. -/
inductive Pieces (quote : Quote) : List Char → List Char → Prop
  | nil : Pieces quote [] []
  | spaces {written text : List Char} (n : Nat) : NoGap written → Pieces quote written text →
      Pieces quote (indentation (n + 1) ++ written) (indentation (n + 1) ++ text)
  | breaks {breaks written text : List Char} {n : Nat} : breaks ≠ [] →
      (∀ c ∈ breaks, Gap.isSeparator c = true) → 0 < n ∨ NoMark quote written → NoGap written →
      Pieces quote written text → Pieces quote (breaks ++ indentation n ++ written) (breaks ++ text)
  | unit {unit written text : List Char} {c : Char} : IsUnit quote unit c →
      Pieces quote written text → Pieces quote (unit ++ written) (c :: text)

theorem Quote.noGap (quote : Quote) (rest : List Char) : NoGap (quote.char :: rest) :=
  endsRun_cons (by cases quote <;> rfl) rest

theorem NoGap.append {s t : List Char} (hs : NoGap s) (ht : NoGap t) : NoGap (s ++ t) := by
  cases s with
  | nil => exact ht
  | cons c s => exact endsRun_cons (hs c rfl) _

theorem atClosingQuote_space (quote : Quote) (rest : List Char) :
    atClosingQuote quote (' ' :: rest) = false := by cases quote <;> rfl

theorem atClosingQuote_separator {quote : Quote} {c : Char} (h : Gap.isSeparator c = true)
    (rest : List Char) : atClosingQuote quote (c :: rest) = false := by
  have hc : c ≠ quote.char := by
    rintro rfl
    cases quote <;> exact Bool.noConfusion h
  rw [atClosingQuote, beq_false_of_ne hc, Bool.false_and]

section

variable {quote : Quote} {fuel index line column : Nat} {read rest : List Char}

theorem quotedFrom?_close
    (hmark : (⟨quote.char :: rest, index, line, column⟩ : Cursor).atDocumentMark = false)
    (hclose : atClosingQuote quote (quote.char :: rest) = true) :
    quotedFrom? quote (fuel + 1) read ⟨quote.char :: rest, index, line, column⟩ =
      some (read.reverse, ⟨rest, index + 1, line, column + 1⟩) := by
  rw [quotedFrom?, hmark, if_neg Bool.false_ne_true, if_pos hclose]
  rfl

theorem quotedFrom?_gap
    (hmark : (⟨rest, index, line, column⟩ : Cursor).atDocumentMark = false)
    (hopen : atClosingQuote quote rest = false)
    (hgap : (⟨rest, index, line, column⟩ : Cursor).sees isGap = true) {gap : Gap} {behind : Cursor}
    (htake : (⟨rest, index, line, column⟩ : Cursor).takeGap? 0 = some (gap, behind)) :
    quotedFrom? quote (fuel + 1) read ⟨rest, index, line, column⟩ =
      quotedFrom? quote fuel (gap.text.reverse ++ read) behind := by
  rw [quotedFrom?, hmark, if_neg Bool.false_ne_true]
  dsimp only
  rw [hopen, if_neg Bool.false_ne_true, hgap, if_pos rfl, htake]
  rfl

theorem quotedFrom?_unit {unit : List Char} {c : Char}
    (hmark : (⟨unit ++ rest, index, line, column⟩ : Cursor).atDocumentMark = false)
    (hunit : IsUnit quote unit c) :
    quotedFrom? quote (fuel + 1) read ⟨unit ++ rest, index, line, column⟩ =
      quotedFrom? quote fuel (c :: read)
        ⟨rest, index + unit.length, line, column + unit.length⟩ := by
  have hgap : (⟨unit ++ rest, index, line, column⟩ : Cursor).sees isGap = false := by
    rw [Cursor.sees]
    cases hhead : (unit ++ rest).head? with
    | none => rfl
    | some d => exact hunit.noGap rest d hhead
  rw [quotedFrom?, hmark, if_neg Bool.false_ne_true]
  dsimp only
  rw [hunit.noQuote, if_neg Bool.false_ne_true, hgap, if_neg Bool.false_ne_true, hunit.noJoint,
    if_neg Bool.false_ne_true, hunit.read, Option.bind_eq_bind, Option.bind_some,
    Cursor.skip_append]

theorem IsUnit.length_pos {unit : List Char} {c : Char} (h : IsUnit quote unit c) :
    0 < unit.length := by
  cases unit with
  | nil =>
    have hspace := h.noGap [' '] ' ' rfl
    exact Bool.noConfusion hspace
  | cons d unit => exact Nat.succ_pos _

theorem quotedFrom?_spaces {n : Nat}
    (hmark : (⟨indentation (n + 1) ++ rest, index, line, column⟩ : Cursor).atDocumentMark = false)
    (hrest : NoGap rest) :
    quotedFrom? quote (fuel + 1) read ⟨indentation (n + 1) ++ rest, index, line, column⟩ =
      quotedFrom? quote fuel ((indentation (n + 1)).reverse ++ read)
        ⟨rest, index + (n + 1), line, column + (n + 1)⟩ := by
  have htake := Cursor.takeGap?_spaces hrest 0 (n + 1) index line column
  exact quotedFrom?_gap hmark (atClosingQuote_space quote _) rfl htake

theorem quotedFrom?_breaks {breaks : List Char} {n : Nat}
    (hmark : (⟨breaks ++ indentation n ++ rest, index, line, column⟩ : Cursor).atDocumentMark
      = false) (hne : breaks ≠ []) (hbreaks : ∀ c ∈ breaks, Gap.isSeparator c = true)
    (hrest : NoGap rest) :
    ∃ index' line', line ≤ line' ∧
      quotedFrom? quote (fuel + 1) read ⟨breaks ++ indentation n ++ rest, index, line, column⟩ =
        quotedFrom? quote fuel (breaks.reverse ++ read) ⟨rest, index', line', n⟩ := by
  obtain ⟨gap, index', line', htext, hline, htake⟩ := Cursor.takeGap?_separators hbreaks hne hrest
    0 n index line column
  obtain ⟨c, breaks, rfl⟩ := List.exists_cons_of_ne_nil hne
  have hc := hbreaks c List.mem_cons_self
  have hgap : isGap c = true := by rw [isGap, Gap.isBreak_of_isSeparator hc, Bool.or_true]
  refine ⟨index', line', hline,
    (quotedFrom?_gap hmark (atClosingQuote_separator hc _) hgap htake).trans ?_⟩
  rw [htext]

/-- Pieces are read up to the closing quote. -/
theorem quotedFrom?_pieces {written text : List Char} (h : Pieces quote written text)
    (hclose : atClosingQuote quote (quote.char :: rest) = true)
    (hmark : (⟨written ++ quote.char :: rest, index, line, column⟩ : Cursor).atDocumentMark = false)
    (hfuel : written.length < fuel) :
    ∃ behind : Cursor, behind.rest = rest ∧ line ≤ behind.line ∧
      ((∀ c ∈ written, isBreak c = false) → behind =
        ⟨rest, index + written.length + 1, line, column + written.length + 1⟩) ∧
      quotedFrom? quote fuel read ⟨written ++ quote.char :: rest, index, line, column⟩ =
        some (read.reverse ++ text, behind) := by
  -- each piece takes one step, and is not empty
  induction h generalizing fuel read index line column with
  | nil =>
    obtain ⟨fuel, rfl⟩ := Nat.exists_eq_succ_of_ne_zero (Nat.ne_of_gt hfuel)
    rw [List.append_nil]
    exact ⟨_, rfl, Nat.le_refl _, fun _ => rfl, quotedFrom?_close hmark hclose⟩
  | @spaces written text n hgap _ ih =>
    obtain ⟨fuel, rfl⟩ := Nat.exists_eq_succ_of_ne_zero (Nat.ne_of_gt (Nat.zero_lt_of_lt hfuel))
    simp only [List.length_append, indentation, List.length_replicate] at hfuel
    obtain ⟨behind, hrest, hline, hbehind, hread⟩ := @ih fuel (index + (n + 1)) line
      (column + (n + 1)) ((indentation (n + 1)).reverse ++ read) (atDocumentMark_of_pos (by omega))
      (by omega)
    refine ⟨behind, hrest, hline, fun hbreak => ?_, ?_⟩
    · rw [hbehind fun c hc => hbreak c (List.mem_append_right _ hc)]
      simp only [List.length_append, indentation, List.length_replicate]
      congr 1 <;> omega
    · rw [List.append_assoc] at hmark ⊢
      rw [quotedFrom?_spaces hmark (hgap.append (quote.noGap rest)), hread, List.reverse_append,
        List.reverse_reverse, List.append_assoc]
  | @breaks breaks written text n hne hsep hn hgap _ ih =>
    obtain ⟨fuel, rfl⟩ := Nat.exists_eq_succ_of_ne_zero (Nat.ne_of_gt (Nat.zero_lt_of_lt hfuel))
    rw [List.append_assoc] at hmark
    obtain ⟨index', line', hline', hstep⟩ := @quotedFrom?_breaks quote fuel index line column read
      (written ++ quote.char :: rest) breaks n hmark hne hsep (hgap.append (quote.noGap rest))
    have hlength := List.length_pos_of_ne_nil hne
    simp only [List.length_append, indentation, List.length_replicate] at hfuel
    have hnext : (⟨written ++ quote.char :: rest, index', line', n⟩ : Cursor).atDocumentMark
        = false := by
      rcases Nat.eq_zero_or_pos n with rfl | hpos
      · exact hn.resolve_left (Nat.lt_irrefl 0) _ _ _
      · exact atDocumentMark_of_pos hpos
    obtain ⟨behind, hrest, hline, -, hread⟩ := @ih fuel index' line' n (breaks.reverse ++ read)
      hnext (by omega)
    refine ⟨behind, hrest, by omega, fun hbreak => ?_, ?_⟩
    · obtain ⟨c, breaks, rfl⟩ := List.exists_cons_of_ne_nil hne
      have hc := hbreak c (by simp)
      rw [Gap.isBreak_of_isSeparator (hsep c List.mem_cons_self)] at hc
      exact Bool.noConfusion hc
    · rw [List.append_assoc (breaks ++ indentation n), hstep, hread, List.reverse_append,
        List.reverse_reverse, List.append_assoc]
  | @unit unit written text c hunit _ ih =>
    obtain ⟨fuel, rfl⟩ := Nat.exists_eq_succ_of_ne_zero (Nat.ne_of_gt (Nat.zero_lt_of_lt hfuel))
    have hpos := hunit.length_pos
    rw [List.length_append] at hfuel
    obtain ⟨behind, hrest, hline, hbehind, hread⟩ := @ih fuel (index + unit.length) line
      (column + unit.length) (c :: read) (atDocumentMark_of_pos (by omega)) (by omega)
    refine ⟨behind, hrest, hline, fun hbreak => ?_, ?_⟩
    · rw [hbehind fun d hd => hbreak d (List.mem_append_right _ hd), List.length_append]
      congr 1 <;> omega
    · rw [List.append_assoc] at hmark ⊢
      rw [quotedFrom?_unit hmark hunit, hread, List.reverse_cons,
        List.append_assoc, List.singleton_append]

end

/-! ## What is written -/

section

variable {quote : Quote} {written text : List Char}

/-- A space more belongs to the run of spaces behind it. -/
theorem Pieces.space (h : Pieces quote written text)
    (hbreak : ∀ c ∈ written.head?, isBreak c = false) :
    Pieces quote (' ' :: written) (' ' :: text) := by
  cases h with
  | nil => exact .spaces 0 endsRun_nil .nil
  | spaces n hgap h => exact .spaces (n + 1) hgap h
  | breaks hne hsep =>
    rename_i breaks _ _ _ _ _
    obtain ⟨c, breaks, rfl⟩ := List.exists_cons_of_ne_nil hne
    have := hbreak c rfl
    rw [Gap.isBreak_of_isSeparator (hsep c List.mem_cons_self)] at this
    exact Bool.noConfusion this
  | unit hunit h => exact .spaces 0 (hunit.noGap _) (.unit hunit h)

/-- A break more belongs to the run of breaks behind it. -/
theorem Pieces.separator (h : Pieces quote written text) {b c : Char}
    (hhead : written.head? = some b) (hb : isBreak b = true) (hc : Gap.isSeparator c = true) :
    Pieces quote (c :: written) (c :: text) := by
  cases h with
  | nil => cases hhead
  | spaces n hgap h =>
    obtain rfl : ' ' = b := Option.some.inj hhead
    exact Bool.noConfusion hb
  | breaks hne hsep hn hgap h =>
    refine .breaks (List.cons_ne_nil c _) (fun d hd => ?_) hn hgap h
    obtain rfl | hd := List.mem_cons.1 hd
    · exact hc
    · exact hsep d hd
  | unit hunit h =>
    rw [isBreak_of_not_isGap (hunit.noGap _ b hhead)] at hb
    exact Bool.noConfusion hb

end

/-! ### Single quotes -/

theorem isUnit_singleQuotedChar {c : Char} (h : isGap c = false) :
    IsUnit .single (singleQuotedChar c) c := by
  rw [singleQuotedChar]
  by_cases hc : c = '\''
  · rw [if_pos hc]
    subst hc
    exact ⟨fun rest => endsRun_cons rfl _, fun rest => rfl, fun rest => rfl, fun rest => rfl⟩
  · rw [if_neg hc]
    refine ⟨fun rest => endsRun_cons h _, fun rest => ?_, fun rest => ?_, fun rest => ?_⟩
    · rw [List.singleton_append, atClosingQuote]
      exact (congrArg (· && _) (beq_false_of_ne hc)).trans (Bool.false_and _)
    · rw [List.singleton_append, atJoint.eq_def]
      split
      · rfl
      · rfl
    · rw [List.singleton_append, quotedUnit?, if_neg hc]
      rfl

theorem head?_indentLines_singleQuotedChar {column : Nat} {s : List Char} {c : Char}
    (h : c ∈ (indentLines column singleQuotedChar true false s).head?) : s.head? = some c := by
  cases s with
  | nil => cases h
  | cons d s =>
    rw [indentLines] at h
    cases hd : isBreak d with
    | true =>
      rw [hd, if_pos rfl] at h
      exact h
    | false =>
      rw [hd, if_neg Bool.false_ne_true, if_neg Bool.false_ne_true, List.nil_append,
        singleQuotedChar] at h
      split at h
      · rename_i hquote
        rw [hquote]
        exact h
      · exact h

/-- A break starts a new line, which is indented unless it is empty. -/
theorem indentLines_separator {column : Nat} {write : Char → List Char} {c : Char} (s : List Char)
    (hc : isBreak c = true) :
    indentLines column write true false (c :: s) = c ::
      (if s.head?.any isBreak then [] else indentation column) ++
        indentLines column write true false s := by
  rw [indentLines, hc, if_pos rfl]
  cases s with
  | nil => simp [indentLines]
  | cons d s =>
    cases hd : isBreak d with
    | true => simp [indentLines, hd]
    | false => simp [indentLines, hd]

theorem pieces_singleQuoted {column : Nat} (hcolumn : 0 < column) {s : List Char}
    (hchars : ∀ c ∈ s, isGap c = true → c = ' ' ∨ Gap.isSeparator c = true)
    (hspaces : anyNeighbours (fun a b => a = ' ' && isBreak b) s = false)
    (hbreaks : anyNeighbours (fun a b => isBreak a && b = ' ') s = false) :
    Pieces .single (indentLines column singleQuotedChar true false s) s := by
  induction s with
  | nil => exact .nil
  | cons c s ih =>
    have hrest := ih (fun d hd => hchars d (List.mem_cons_of_mem c hd))
      (anyNeighbours_of_cons hspaces) (anyNeighbours_of_cons hbreaks)
    cases hgap : isGap c with
    | false =>
      rw [indentLines, isBreak_of_not_isGap hgap, if_neg Bool.false_ne_true,
        if_neg Bool.false_ne_true, List.nil_append]
      exact .unit (isUnit_singleQuotedChar hgap) hrest
    | true =>
      obtain rfl | hsep := hchars c List.mem_cons_self hgap
      · refine hrest.space fun d hd => ?_
        have := neighbours_of_cons hspaces (head?_indentLines_singleQuotedChar hd)
        rwa [decide_eq_true rfl, Bool.true_and] at this
      · have hbreak := Gap.isBreak_of_isSeparator hsep
        rw [indentLines_separator s hbreak]
        cases hnext : s.head?.any isBreak with
        | true =>
          obtain ⟨b, hb, hbreak'⟩ := (Option.any_eq_true _ _).1 hnext
          rw [if_pos rfl]
          refine hrest.separator (b := b) ?_ hbreak' hsep
          obtain ⟨s, rfl⟩ := List.head?_eq_some_iff.1 hb
          rw [indentLines, hbreak', if_pos rfl]
          rfl
        | false =>
          rw [if_neg Bool.false_ne_true]
          refine @Pieces.breaks _ [c] _ _ _ (List.cons_ne_nil c _) (fun d hd => ?_) (Or.inl hcolumn)
            (fun d hd => ?_) hrest
          · rw [List.mem_singleton.1 hd]
            exact hsep
          · have hd := head?_indentLines_singleQuotedChar hd
            rw [hd, Option.any_some] at hnext
            have hspace := neighbours_of_cons hbreaks hd
            rw [hbreak, Bool.true_and, decide_eq_false_iff_not] at hspace
            cases hgap : isGap d with
            | false => rfl
            | true =>
              obtain rfl | hsep := hchars d (List.mem_cons_of_mem c (List.mem_of_mem_head? hd)) hgap
              · exact absurd rfl hspace
              · rw [Gap.isBreak_of_isSeparator hsep] at hnext
                exact Bool.noConfusion hnext

/-! ### Double quotes -/

theorem isUnit_escape {letter c : Char} {more : List Char} (hbreak : isBreak letter = false)
    (h : ∀ rest, escape? letter (more ++ rest) = some (c, more.length + 1)) :
    IsUnit .double ('\\' :: letter :: more) c := by
  refine ⟨fun rest => endsRun_cons rfl _, fun rest => rfl, fun rest => ?_, fun rest => ?_⟩
  · rw [List.cons_append, List.cons_append, atJoint, hbreak, Bool.and_false]
  · rw [List.cons_append, List.cons_append, quotedUnit?, if_pos rfl, h]
    rfl

theorem simpleEscape?_of_shortEscape? {c letter : Char} (h : shortEscape? c = some letter) :
    isBreak letter = false ∧ escapeWidth? letter = none ∧ simpleEscape? letter = some c := by
  have hc : c = Char.ofNat c.toNat := (Char.ofNat_toNat c).symm
  unfold shortEscape? at h
  split at h
  case h_15 => cases h
  all_goals
    rename_i hn
    rw [hn] at hc
    subst hc
    obtain rfl := Option.some.inj h
    decide

theorem upperHex_digit : ∀ d < 16,
    (digitValue? (if (Nat.digitChar d).toNat < 97 then Nat.digitChar d
      else Char.ofNat ((Nat.digitChar d).toNat - 32))).filter (· < 16) = some d := by
  decide

theorem length_hexEscape {width n : Nat} (hwidth : 0 < width) (h : n < 16 ^ width) :
    (hexEscape width n).length = width := by
  have := Nat.toDigits_length 16 n width hwidth h
  rw [hexEscape, padZeros, List.length_append, List.length_replicate, List.length_map, inBase]
  omega

theorem numeral?_hexEscape {width : Nat} (hwidth : 0 < width) (n : Nat) (h : n < 16 ^ width) :
    numeral? 16 (hexEscape width n) = some n := by
  have hdigits : digitsFrom? 16 0 (hexEscape width n) = some n := by
    rw [hexEscape, padZeros, digitsFrom?_zeros (by decide)]
    exact digitsFrom?_toDigits (by decide) upperHex_digit n
  have hlength := length_hexEscape hwidth h
  cases hs : hexEscape width n with
  | nil =>
    rw [hs] at hlength
    exact absurd hlength (Nat.ne_of_lt hwidth)
  | cons c s => rwa [hs] at hdigits

theorem charOfCodePoint?_toNat (c : Char) : charOfCodePoint? c.toNat = some c := by
  have hvalid : c.toNat < 0xD800 ∨ (0xDFFF < c.toNat ∧ c.toNat ≤ 0x10FFFF) := by
    obtain h | ⟨h₁, h₂⟩ := c.valid
    · exact Or.inl h
    · exact Or.inr ⟨h₁, Nat.le_of_lt_succ h₂⟩
  rw [charOfCodePoint?, if_pos hvalid, Char.ofNat_toNat]

theorem isUnit_hexEscape {letter c : Char} {width : Nat} (hbreak : isBreak letter = false)
    (hletter : escapeWidth? letter = some width) (hwidth : 0 < width) (h : c.toNat < 16 ^ width) :
    IsUnit .double ('\\' :: letter :: hexEscape width c.toNat) c := by
  refine isUnit_escape hbreak fun rest => ?_
  have hlength := length_hexEscape hwidth h
  have htake : (hexEscape width c.toNat ++ rest).take width = hexEscape width c.toNat := by
    rw [List.take_append_of_le_length (Nat.le_of_eq hlength.symm), List.take_of_length_le
      (Nat.le_of_eq hlength)]
  rw [escape?, hletter]
  dsimp only
  rw [htake, hlength, if_neg (Nat.lt_irrefl width), numeral?_hexEscape hwidth _ h,
    Option.bind_eq_bind, Option.bind_some, charOfCodePoint?_toNat]
  rfl

theorem isUnit_simpleEscape {letter c : Char} (hbreak : isBreak letter = false)
    (hwidth : escapeWidth? letter = none) (h : simpleEscape? letter = some c) :
    IsUnit .double ['\\', letter] c := by
  refine isUnit_escape hbreak fun rest => ?_
  rw [escape?, hwidth]
  dsimp only
  rw [h]
  rfl

theorem isUnit_plain {c : Char} (hgap : isGap c = false) (hquote : c ≠ '"') (hescape : c ≠ '\\') :
    IsUnit .double [c] c := by
  refine ⟨fun rest => endsRun_cons hgap _, fun rest => ?_, fun rest => ?_, fun rest => ?_⟩
  · rw [List.singleton_append, atClosingQuote]
    exact (congrArg (· && _) (beq_false_of_ne hquote)).trans (Bool.false_and _)
  · rw [List.singleton_append, atJoint.eq_def]
    split
    · rename_i hc
      exact absurd (List.cons.inj hc).1 hescape
    · rfl
  · exact if_neg hescape

theorem noGap_of_isPlainCharacter {c : Char} (h : isPlainCharacter c = true)
    (hshort : shortEscape? c = none) (hspace : c ≠ ' ') : isGap c = false := by
  cases hgap : isGap c with
  | false => rfl
  | true =>
    rw [isGap, isWhite, isBreak] at hgap
    simp only [Bool.or_eq_true, decide_eq_true_eq] at hgap
    obtain (rfl | rfl) | (((rfl | rfl) | hc) | hc) | hc := hgap
    · exact absurd rfl hspace
    · exact Bool.noConfusion h
    · cases hshort
    · exact Bool.noConfusion h
    all_goals
      rw [shortEscape?, hc] at hshort
      cases hshort

theorem isUnit_escapeChar {c : Char} (hspace : c ≠ ' ') : IsUnit .double (escapeChar c) c := by
  rw [escapeChar]
  cases hshort : shortEscape? c with
  | some letter =>
    obtain ⟨hbreak, hwidth, hread⟩ := simpleEscape?_of_shortEscape? hshort
    exact isUnit_simpleEscape hbreak hwidth hread
  | none =>
    dsimp only
    cases hplain : isPlainCharacter c with
    | true =>
      have hgap := noGap_of_isPlainCharacter hplain hshort hspace
      have hquote : c ≠ '"' := by
        rintro rfl
        cases hshort
      have hescape : c ≠ '\\' := by
        rintro rfl
        cases hshort
      rw [if_pos rfl]
      exact isUnit_plain hgap hquote hescape
    | false =>
      rw [if_neg Bool.false_ne_true]
      split
      · rename_i hn
        exact isUnit_hexEscape (by decide) rfl (by decide) (Nat.lt_succ_of_le hn)
      · split
        · rename_i hn
          exact isUnit_hexEscape (by decide) rfl (by decide) (Nat.lt_succ_of_le hn)
        · refine isUnit_hexEscape (by decide) rfl (by decide) ?_
          have := c.valid
          obtain h | ⟨-, h⟩ := this
          · exact Nat.lt_trans h (by decide)
          · exact Nat.lt_trans h (by decide)

theorem escapeChar_space : escapeChar ' ' = [' '] := by decide

theorem isBreak_head?_escaped {s : List Char} {c : Char} (h : c ∈ (s.flatMap escapeChar).head?) :
    isBreak c = false := by
  cases s with
  | nil => cases h
  | cons d s =>
    rw [List.flatMap_cons] at h
    by_cases hd : d = ' '
    · subst hd
      rw [escapeChar_space] at h
      obtain rfl : ' ' = c := Option.some.inj h
      rfl
    · exact isBreak_of_not_isGap ((isUnit_escapeChar hd).noGap _ c h)

theorem pieces_doubleQuoted (s : List Char) : Pieces .double (s.flatMap escapeChar) s := by
  induction s with
  | nil => exact .nil
  | cons c s ih =>
    rw [List.flatMap_cons]
    by_cases hc : c = ' '
    · subst hc
      rw [escapeChar_space, List.singleton_append]
      exact ih.space fun d hd => isBreak_head?_escaped hd
    · exact .unit (isUnit_escapeChar hc) ih

/-! ## Whole scalars -/

/-- What the scanner comes to behind a scalar that it has read; on one line it has moved by the
characters of the scalar. -/
structure ComesBehind (written rest : List Char) (c behind : Cursor) : Prop where
  rest_eq : behind.rest = rest
  line_le : c.line ≤ behind.line
  one_line : (∀ x ∈ written, isBreak x = false) → behind =
    ⟨rest, c.index + written.length, c.line, c.column + written.length⟩

theorem comesBehind_line (written rest : List Char) (index line column : Nat) :
    ComesBehind written rest ⟨written ++ rest, index, line, column⟩
      ⟨rest, index + written.length, line, column + written.length⟩ :=
  ⟨rfl, Nat.le_refl line, fun _ => rfl⟩

theorem ComesBehind.trans {one other rest : List Char} {c between behind : Cursor}
    (h₁ : ComesBehind one between.rest c between) (h₂ : ComesBehind other rest between behind) :
    ComesBehind (one ++ other) rest c behind where
  rest_eq := h₂.rest_eq
  line_le := Nat.le_trans h₁.line_le h₂.line_le
  one_line h := by
    rw [h₂.one_line fun x hx => h x (List.mem_append_right one hx),
      h₁.one_line fun x hx => h x (List.mem_append_left other hx)]
    simp only [List.length_append, Nat.add_assoc]

theorem quotedScalar?_pieces {quote : Quote} {written text rest : List Char}
    (h : Pieces quote written text) (hclose : atClosingQuote quote (quote.char :: rest) = true)
    (index line column : Nat) :
    ∃ behind, ComesBehind (quote.char :: written ++ [quote.char]) rest
        ⟨quote.char :: written ++ [quote.char] ++ rest, index, line, column⟩ behind ∧
      (⟨quote.char :: written ++ [quote.char] ++ rest, index, line, column⟩
        : Cursor).quotedScalar? quote = some (text, behind) := by
  obtain ⟨behind, hrest, hline, hbehind, hread⟩ := @quotedFrom?_pieces quote
    ((quote.char :: written ++ [quote.char] ++ rest).length + 1) (index + 1) line (column + 1) []
    rest written text h hclose (atDocumentMark_of_pos (Nat.succ_pos _))
    (by simp only [List.cons_append, List.length_append, List.length_cons]; omega)
  refine ⟨behind, ⟨hrest, hline, fun hbreak => ?_⟩, ?_⟩
  · rw [hbehind fun c hc => hbreak c (by simp [hc])]
    simp only [List.length_append, List.length_cons, List.length_nil]
    congr 1 <;> omega
  · rw [Cursor.quotedScalar?]
    refine Eq.trans ?_ hread
    simp [Cursor.skip]

theorem isBreak_of_mem_indentLines {column : Nat} {s : List Char}
    (h : ∀ c ∈ s, isBreak c = false) {c : Char}
    (hc : c ∈ indentLines column singleQuotedChar true false s) : isBreak c = false := by
  induction s with
  | nil => cases hc
  | cons d s ih =>
    have hd := h d List.mem_cons_self
    rw [indentLines, hd, if_neg Bool.false_ne_true, if_neg Bool.false_ne_true, List.nil_append,
      singleQuotedChar] at hc
    obtain hc | hc := List.mem_append.1 hc
    · split at hc
      · rename_i hquote
        rw [hquote] at hd
        simp only [List.mem_cons, List.not_mem_nil, or_false, or_self] at hc
        rw [hc, hd]
      · rw [List.mem_singleton.1 hc, hd]
    · exact ih (fun x hx => h x (List.mem_cons_of_mem d hx)) hc

end LoginGate.Yaml
