import LoginGate.Proofs.Yaml.JsonTexts

/-!
# Texts of JSON, as YAML folds them

JSON leaves spaces and three line breaks as they are, and YAML folds them between double quotes.  Of
any text that JSON has quoted YAML reads `folded? s`, and nothing if a line in it separates
documents:

    (⟨Json.quoted s ++ rest, index, line, column⟩ : Cursor).quotedScalar? .double =
      (folded? s).map fun t => (t, behind)                                (quotedScalar?_folded)

No text becomes longer, and one that is read as it stands is `Verbatim` (`verbatim_iff`).
-/

namespace LoginGate.Yaml

open LoginGate.Text

/-! ## Folding -/

/-- What is kept of a break. -/
def keptBreak (c : Char) : Char := if Gap.isSeparator c then c else '\n'

/-- The gap with a character more. -/
def Gap.add (g : Gap) (c : Char) : Gap :=
  if isBreak c then g.addBreak [keptBreak c] else g.addWhite c

/-- What is read of a text behind a gap; none if it begins a line that separates documents. -/
def foldFrom? (g : Gap) (lineStart : Bool) : List Char → Option (List Char)
  | [] => some g.text
  | c :: s =>
    if isRawGap c then foldFrom? (g.add c) (isBreak c) s
    else if lineStart && startsMark (c :: s) then none
    else (foldFrom? {} false s).map fun t => g.text ++ c :: t

/-- What YAML reads of a text between the quotes of JSON. -/
def folded? (s : List Char) : Option (List Char) := foldFrom? {} false s

variable {c : Char} {s t gap rest : List Char} {g : Gap} {lineStart : Bool}

/-! ## Gaps -/

theorem atClosingQuote_rawGap (h : isRawGap c = true) (rest : List Char) :
    atClosingQuote .double (c :: rest) = false := by
  have hc : c ≠ Quote.double.char := by
    rintro rfl
    cases h
  rw [atClosingQuote, beq_false_of_ne hc, Bool.false_and]

theorem takeBreak_nextLine (h : c.toNat = 0x85) (rest : List Char) (index line column : Nat) :
    (⟨c :: rest, index, line, column⟩ : Cursor).takeBreak =
      (['\n'], ⟨rest, index + 1, line + 1, 0⟩) := by
  rw [← Char.ofNat_toNat c, h]
  rfl

theorem extend?_rawGap (h : isRawGap c = true) (fuel : Nat) (g : Gap) (rest : List Char)
    (index line column : Nat) :
    Gap.extend? 0 (fuel + 1) g ⟨c :: rest, index, line, column⟩ =
      Gap.extend? 0 fuel (g.add c) ⟨rest, index + 1, line + (if isBreak c then 1 else 0),
        if isBreak c then 0 else column + 1⟩ := by
  obtain rfl | hline | hseparator := isRawGap_cases h
  · exact Gap.extend?_space 0 fuel g rest index line column
  · have hbreak : isBreak c = true := by simp [isBreak, hline]
    have hwhite : isWhite c = false := by
      rw [isWhite, Bool.or_eq_false_iff, decide_eq_false_iff_not, decide_eq_false_iff_not]
      constructor <;>
      · rintro rfl
        revert hline
        decide
    have hkept : keptBreak c = '\n' := if_neg (by simp [Gap.isSeparator, hline])
    rw [Gap.extend?, Gap.add, hbreak, if_pos rfl, if_pos rfl, if_pos rfl, hkept]
    simp only [Cursor.head?, List.head?_cons, hwhite, hbreak, Bool.false_eq_true, if_false, if_true,
      takeBreak_nextLine hline]
  · have hbreak := Gap.isBreak_of_isSeparator hseparator
    have hkept : keptBreak c = c := if_pos hseparator
    rw [Gap.extend?_separator hseparator, Gap.add, hbreak, if_pos rfl, if_pos rfl, if_pos rfl, hkept]

/-- A gap is taken as a whole, and each of its breaks begins a line. -/
theorem extend?_rawGaps (h : ∀ c ∈ gap, isRawGap c = true) (hrest : NoGap rest) (fuel : Nat) (g : Gap)
    (index line column : Nat) : ∃ behind,
    ComesBehind gap rest ⟨gap ++ rest, index, line, column⟩ behind ∧
      behind.line = line + gap.countP isBreak ∧
      (behind.column == 0) = gap.foldl (fun _ c => isBreak c) (column == 0) ∧
      Gap.extend? 0 (fuel + gap.length) g ⟨gap ++ rest, index, line, column⟩ =
        some (gap.foldl Gap.add g, behind) := by
  induction gap generalizing g index line column with
  | nil =>
    exact ⟨⟨rest, index, line, column⟩, ⟨rfl, Nat.le_refl _, fun _ => rfl⟩, rfl, rfl,
      Gap.extend?_stop hrest 0 fuel g index line column⟩
  | cons c gap ih =>
    let between : Cursor := ⟨gap ++ rest, index + 1, line + (if isBreak c then 1 else 0),
      if isBreak c then 0 else column + 1⟩
    have hbetween : ComesBehind [c] between.rest ⟨c :: gap ++ rest, index, line, column⟩ between :=
      ⟨rfl, Nat.le_add_right _ _, fun hbreak => by
        dsimp only [between]
        rw [hbreak c List.mem_cons_self]
        rfl⟩
    obtain ⟨behind, hbehind, hline, hcolumn, hgap⟩ := ih (fun d hd => h d (List.mem_cons_of_mem c hd))
      (g.add c) between.index between.line between.column
    refine ⟨behind, hbetween.trans hbehind, ?_, ?_, ?_⟩
    · rw [hline, List.countP_cons, Nat.add_assoc, Nat.add_comm (ite _ _ _)]
    · rw [hcolumn, List.foldl_cons]
      dsimp only [between]
      congr 1
      cases isBreak c <;> rfl
    · rw [List.length_cons, ← Nat.add_assoc, List.cons_append, extend?_rawGap
        (h c List.mem_cons_self), hgap, List.foldl_cons]

theorem takeGap?_rawGaps (h : ∀ c ∈ gap, isRawGap c = true) (hrest : NoGap rest)
    (index line column : Nat) : ∃ behind,
    ComesBehind gap rest ⟨gap ++ rest, index, line, column⟩ behind ∧
      behind.line = line + gap.countP isBreak ∧
      (behind.column == 0) = gap.foldl (fun _ c => isBreak c) (column == 0) ∧
      (⟨gap ++ rest, index, line, column⟩ : Cursor).takeGap? 0 =
        some (gap.foldl Gap.add {}, behind) := by
  have hlength : (gap ++ rest).length + 1 = rest.length + 1 + gap.length := by
    rw [List.length_append]
    omega
  rw [Cursor.takeGap?]
  dsimp only
  rw [hlength]
  exact extend?_rawGaps h hrest _ {} index line column

theorem foldFrom?_rawGaps (h : ∀ c ∈ gap, isRawGap c = true) (g : Gap) (lineStart : Bool)
    (s : List Char) : foldFrom? g lineStart (gap ++ s) =
      foldFrom? (gap.foldl Gap.add g) (gap.foldl (fun _ c => isBreak c) lineStart) s := by
  induction gap generalizing g lineStart with
  | nil => rfl
  | cons c gap ih =>
    rw [List.cons_append, foldFrom?, if_pos (h c List.mem_cons_self),
      ih fun d hd => h d (List.mem_cons_of_mem c hd)]
    rfl

/-- Where a gap ends it is put in front of what follows. -/
theorem foldFrom?_endsRun (h : EndsRun isRawGap s) (g : Gap) (lineStart : Bool) :
    foldFrom? g lineStart s = (foldFrom? {} lineStart s).map (g.text ++ ·) := by
  cases s with
  | nil => exact congrArg some (List.append_nil _).symm
  | cons c s =>
    have hc : isRawGap c = false := h c rfl
    rw [foldFrom?, foldFrom?, hc, if_neg Bool.false_ne_true, if_neg Bool.false_ne_true]
    split_ifs
    · rfl
    · rw [Option.map_map]
      rfl

theorem foldFrom?_run (h : ∀ c ∈ gap, isRawGap c = true) (hends : EndsRun isRawGap s)
    (lineStart : Bool) : foldFrom? {} lineStart (gap ++ s) =
      (foldFrom? {} (gap.foldl (fun _ c => isBreak c) lineStart) s).map
        ((gap.foldl Gap.add {}).text ++ ·) := by
  rw [foldFrom?_rawGaps h, foldFrom?_endsRun hends]

/-! ## What is read -/

/-- What JSON writes of a text is read up to the closing quote, and each break in it begins a line. -/
theorem quotedFrom?_folded {fuel index line column : Nat} {read : List Char}
    (hfuel : (s.flatMap Json.escapeChar).length < fuel) : ∃ behind,
    ComesBehind (s.flatMap Json.escapeChar ++ ['"']) rest
        ⟨s.flatMap Json.escapeChar ++ '"' :: rest, index, line, column⟩ behind ∧
      line + (s.flatMap Json.escapeChar).countP isBreak ≤ behind.line ∧
      quotedFrom? .double fuel read
          ⟨s.flatMap Json.escapeChar ++ '"' :: rest, index, line, column⟩ =
        (foldFrom? {} (column == 0) s).map fun t => (read.reverse ++ t, behind) := by
  obtain ⟨fuel, rfl⟩ := Nat.exists_eq_succ_of_ne_zero (Nat.ne_of_gt (Nat.zero_lt_of_lt hfuel))
  have hmark := atDocumentMark_quoted s rest index line column
  -- a gap takes one step, and so does every other character
  induction s using run_induction isRawGap generalizing fuel index line column read with
  | nil =>
    have hclose :
        (⟨Quote.double.char :: rest, index, line, column⟩ : Cursor).atDocumentMark = false :=
      hmark.trans (Bool.and_false _)
    refine ⟨_, comesBehind_line ['"'] rest index line column, Nat.le_refl _, ?_⟩
    refine (quotedFrom?_close hclose rfl).trans ?_
    exact congrArg (fun t => some (t, _)) (List.append_nil _).symm
  | run gap s hne hgap hends ih =>
    have hpos := List.length_pos_of_ne_nil hne
    rw [List.flatMap_append, flatMap_jsonEscape_rawGaps hgap] at hfuel hmark ⊢
    rw [List.length_append] at hfuel
    obtain ⟨fuel, rfl⟩ := Nat.exists_eq_succ_of_ne_zero (show fuel ≠ 0 by omega)
    obtain ⟨⟨_, index', line', column'⟩, hbetween, hline', hcolumn, htake⟩ := takeGap?_rawGaps hgap
      (noGap_quoted hends rest) index line column
    obtain rfl := hbetween.rest_eq
    obtain ⟨behind, hbehind, hline, hread⟩ := @ih index' line' column'
      ((gap.foldl Gap.add {}).text.reverse ++ read) fuel (by omega) (atDocumentMark_quoted s rest _ _ _)
    obtain ⟨d, gap, rfl⟩ := List.exists_cons_of_ne_nil hne
    have hd : isRawGap d = true := hgap d List.mem_cons_self
    have hstarts : startsMark (d :: gap ++ s) = false := startsMark_rawGap hd _
    rw [hstarts, Bool.and_false, List.append_assoc] at hmark
    rw [List.append_assoc, List.append_assoc, List.countP_append, ← Nat.add_assoc, ← hline']
    refine ⟨behind, hbetween.trans hbehind, hline, ?_⟩
    rw [quotedFrom?_gap hmark (atClosingQuote_rawGap hd _) (isGap_of_isRawGap hd) htake, hread,
      foldFrom?_run hgap hends, ← hcolumn, Option.map_map]
    simp only [Function.comp_def, List.reverse_append, List.reverse_reverse, List.append_assoc]
  | other c s hc ih =>
    have hunit := isUnit_of_not_isRawGap hc
    have hpos := hunit.length_pos
    let width := (Json.escapeChar c).length
    have hcolumn : (column + width == 0) = false := beq_false_of_ne (by omega)
    rw [List.flatMap_cons] at hfuel hmark ⊢
    rw [List.length_append] at hfuel
    obtain ⟨fuel, rfl⟩ := Nat.exists_eq_succ_of_ne_zero (show fuel ≠ 0 by omega)
    obtain ⟨behind, hbehind, hline, hread⟩ := @ih (index + width) line (column + width) (c :: read)
      fuel (by omega) (atDocumentMark_quoted s rest _ _ _)
    rw [List.append_assoc] at hmark
    rw [List.append_assoc, List.append_assoc, List.countP_append, countP_isBreak_jsonEscape hc,
      Nat.zero_add, foldFrom?, hc, if_neg Bool.false_ne_true]
    refine ⟨behind, (comesBehind_line _ _ index line column).trans hbehind, hline, ?_⟩
    split_ifs with hstarts
    · rw [hstarts] at hmark
      rw [quotedFrom?, hmark]
      rfl
    · rw [Bool.eq_false_of_not_eq_true hstarts] at hmark
      rw [quotedFrom?_unit hmark hunit, hread, hcolumn, Option.map_map]
      refine congrArg (Option.map · _) (funext fun t => congrArg (·, behind) ?_)
      exact (congrArg (· ++ t) List.reverse_cons).trans (List.append_assoc ..)

/-- **What YAML reads between the quotes of JSON.** -/
theorem quotedScalar?_folded (s rest : List Char) (index line column : Nat) : ∃ behind,
    ComesBehind (Json.quoted s) rest ⟨Json.quoted s ++ rest, index, line, column⟩ behind ∧
      line + (Json.quoted s).countP isBreak ≤ behind.line ∧
      (⟨Json.quoted s ++ rest, index, line, column⟩ : Cursor).quotedScalar? .double =
        (folded? s).map fun t => (t, behind) := by
  have hquoted : Json.quoted s = ['"'] ++ (s.flatMap Json.escapeChar ++ ['"']) := rfl
  have hwhole : Json.quoted s ++ rest = ['"'] ++ (s.flatMap Json.escapeChar ++ '"' :: rest) := by
    rw [hquoted, List.append_assoc, List.append_assoc, List.singleton_append (l := rest)]
  obtain ⟨behind, hbehind, hline, hread⟩ := @quotedFrom?_folded s rest
    ((Json.quoted s ++ rest).length + 1) (index + 1) line (column + 1) [] (by
      rw [hwhole]
      simp only [List.length_append, List.length_cons]
      omega)
  have hcount : (Json.quoted s).countP isBreak = (s.flatMap Json.escapeChar).countP isBreak := by
    rw [hquoted, List.countP_append, List.countP_append]
    exact Nat.zero_add _
  have hstart := comesBehind_line ['"'] (s.flatMap Json.escapeChar ++ '"' :: rest) index line column
  have hboth := hstart.trans hbehind
  rw [← hquoted, ← hwhole] at hboth
  refine ⟨behind, hboth, hcount ▸ hline, Eq.trans ?_ hread⟩
  rw [Cursor.quotedScalar?, hwhole]
  rfl

/-! ## Gaps that stay as they are -/

/-- What is kept of the breaks behind a break. -/
def laterBreaks (gap : List Char) : List Char := (gap.filter isBreak).map keptBreak

theorem foldl_add_broken (h : g.broken = true) :
    gap.foldl Gap.add g = { g with laterBreaks := g.laterBreaks ++ laterBreaks gap } := by
  induction gap generalizing g with
  | nil => exact congrArg (fun b => { g with laterBreaks := b }) (List.append_nil _).symm
  | cons c gap ih =>
    rw [List.foldl_cons, Gap.add, laterBreaks, List.filter_cons]
    cases hbreak : isBreak c with
    | true =>
      rw [if_pos rfl, if_pos rfl, Gap.addBreak, if_pos h, List.map_cons]
      refine (@ih { g with laterBreaks := g.laterBreaks ++ [keptBreak c] } h).trans ?_
      rw [List.append_assoc, List.singleton_append]
      rfl
    | false =>
      rw [if_neg Bool.false_ne_true, if_neg Bool.false_ne_true, Gap.addWhite, if_pos h]
      exact ih h

theorem length_laterBreaks_le (gap : List Char) : (laterBreaks gap).length ≤ gap.length := by
  rw [laterBreaks, List.length_map]
  exact List.length_filter_le _ _

theorem laterBreaks_eq_self_iff (h : ∀ c ∈ gap, isRawGap c = true) :
    laterBreaks gap = gap ↔ ∀ c ∈ gap, Gap.isSeparator c = true := by
  constructor
  · intro hlater
    have hbreaks : gap.filter isBreak = gap := by
      refine List.filter_sublist.eq_of_length ?_
      have := congrArg List.length hlater
      rwa [laterBreaks, List.length_map] at this
    rw [laterBreaks, hbreaks, List.map_eq_iff] at hlater
    intro c hc
    by_contra hseparator
    obtain ⟨n, hn⟩ := List.mem_iff_getElem?.1 hc
    have hkept := hlater n
    rw [hn, Option.map_some, keptBreak, if_neg hseparator, Option.some_inj] at hkept
    subst hkept
    cases h _ hc
  · intro hseparators
    have hbreaks : gap.filter isBreak = gap :=
      List.filter_eq_self.2 fun c hc => Gap.isBreak_of_isSeparator (hseparators c hc)
    rw [laterBreaks, hbreaks]
    exact (List.map_congr_left fun c hc => if_pos (hseparators c hc)).trans (List.map_id _)

/-- What a gap leaves whose first break is this one: it keeps a separator, and a break that is read
as a line feed gives way to a space or to the breaks behind it. -/
theorem text_foldl_add_break (hbreak : isBreak c = true) (gap white : List Char) :
    ((c :: gap).foldl Gap.add { white := white }).text =
      if Gap.isSeparator c then c :: laterBreaks gap
      else if (laterBreaks gap).isEmpty then [' '] else laterBreaks gap := by
  have hfold : (c :: gap).foldl Gap.add { white := white } =
      { broken := true, firstBreak := [keptBreak c], laterBreaks := laterBreaks gap } := by
    rw [List.foldl_cons, Gap.add, hbreak, if_pos rfl]
    exact foldl_add_broken rfl
  rw [hfold, keptBreak]
  by_cases hseparator : Gap.isSeparator c = true
  · rw [if_pos hseparator, if_pos hseparator]
    have hfeed : [c] ≠ ['\n'] := by
      rintro hfeed
      rw [List.singleton_inj.1 hfeed] at hseparator
      cases hseparator
    exact if_neg hfeed
  · rw [if_neg hseparator, if_neg hseparator]
    rfl

theorem eq_space_of_not_isBreak (h : isRawGap c = true) (hbreak : isBreak c = false) : c = ' ' := by
  obtain rfl | hline | hseparator := isRawGap_cases h
  · rfl
  · simp [isBreak, hline] at hbreak
  · rw [Gap.isBreak_of_isSeparator hseparator] at hbreak
    cases hbreak

/-- No gap becomes longer, and one stays as it is if it has spaces alone or separators alone. -/
theorem text_foldl_add (h : ∀ c ∈ gap, isRawGap c = true) (white : List Char) :
    (gap.foldl Gap.add { white := white }).text.length ≤ white.length + gap.length ∧
      ((gap.foldl Gap.add { white := white }).text = white ++ gap ↔
        (∀ c ∈ gap, c = ' ') ∨ white = [] ∧ ∀ c ∈ gap, Gap.isSeparator c = true) := by
  induction gap generalizing white with
  | nil =>
    exact ⟨Nat.le_refl _, iff_of_true (List.append_nil white).symm
      (Or.inl fun c hc => absurd hc List.not_mem_nil)⟩
  | cons c gap ih =>
    obtain ⟨hc, hgap⟩ := List.forall_mem_cons.1 h
    have hlater := length_laterBreaks_le gap
    rw [List.forall_mem_cons, List.forall_mem_cons]
    cases hbreak : isBreak c with
    | false =>
      obtain rfl := eq_space_of_not_isBreak hc hbreak
      obtain ⟨hlength, heq⟩ := ih hgap (white ++ [' '])
      rw [List.append_assoc, List.singleton_append] at heq
      rw [List.length_append, List.length_singleton] at hlength
      refine ⟨?_, heq.trans ?_⟩
      · rw [List.length_cons, Nat.add_comm gap.length, ← Nat.add_assoc]
        exact hlength
      · simp [Gap.isSeparator]
    | true =>
      have hspace : c ≠ ' ' := by
        rintro rfl
        cases hbreak
      rw [text_foldl_add_break hbreak, List.length_cons]
      by_cases hseparator : Gap.isSeparator c = true
      · rw [if_pos hseparator, List.length_cons, ← laterBreaks_eq_self_iff hgap]
        refine ⟨by omega, fun heq => Or.inr ?_, ?_⟩
        · have hlength := congrArg List.length heq
          rw [List.length_append, List.length_cons, List.length_cons] at hlength
          obtain rfl := List.eq_nil_of_length_eq_zero (show white.length = 0 by omega)
          exact ⟨rfl, hseparator, (List.cons.inj heq).2⟩
        · rintro (⟨rfl, -⟩ | ⟨rfl, -, heq⟩)
          · exact absurd rfl hspace
          · rw [heq, List.nil_append]
      · have hnone : ¬ ((c = ' ' ∧ ∀ d ∈ gap, d = ' ') ∨
            white = [] ∧ Gap.isSeparator c = true ∧ ∀ d ∈ gap, Gap.isSeparator d = true) := by
          rintro (⟨hc, -⟩ | ⟨-, hc, -⟩)
          · exact hspace hc
          · exact hseparator hc
        rw [if_neg hseparator]
        split_ifs
        · refine ⟨by rw [List.length_singleton]; omega, iff_of_false (fun heq => hspace ?_) hnone⟩
          have hmem : c ∈ [' '] := heq ▸ List.mem_append_right white List.mem_cons_self
          exact List.mem_singleton.1 hmem
        · refine ⟨by omega, iff_of_false (fun heq => ?_) hnone⟩
          have hlength := congrArg List.length heq
          rw [List.length_append, List.length_cons] at hlength
          omega

/-! ## Texts that are read as they stand -/

theorem length_foldFrom?_le (h : foldFrom? {} lineStart s = some t) : t.length ≤ s.length := by
  induction s using run_induction isRawGap generalizing lineStart t with
  | nil =>
    obtain rfl := Option.some.inj h
    exact Nat.le_refl _
  | run gap s _ hgap hends ih =>
    rw [foldFrom?_run hgap hends] at h
    obtain ⟨t, ht, rfl⟩ := Option.map_eq_some_iff.1 h
    have hlength := (text_foldl_add hgap []).1
    have := ih ht
    simp only [List.length_append, List.length_nil] at hlength ⊢
    omega
  | other c s hc ih =>
    rw [foldFrom?, hc, if_neg Bool.false_ne_true] at h
    split_ifs at h
    obtain ⟨t, ht, rfl⟩ := Option.map_eq_some_iff.1 h
    exact Nat.succ_le_succ (ih ht)

/-- Behind a character that is no gap a text stays as it is. -/
theorem verbatim_cons_iff (hc : isRawGap c = false) :
    Verbatim (c :: s) ↔ (isPermitted c = true ∨ c.toNat < 32) ∧ Verbatim s := by
  obtain ⟨hspace, hline, hseparator⟩ := not_isRawGap_spec hc
  rw [← Bool.not_eq_true] at hseparator
  refine ⟨fun h => ⟨h.permitted c List.mem_cons_self, h.of_cons⟩, fun ⟨hpermitted, h⟩ => ?_⟩
  exact h.cons hpermitted hline (fun h => absurd h hspace) fun h => absurd h hseparator

theorem Verbatim.of_append (h : Verbatim (gap ++ s)) : Verbatim s := by
  induction gap with
  | nil => exact h
  | cons c gap ih => exact ih h.of_cons

/-- In a gap that stays as it is no space stands beside a break. -/
theorem Verbatim.run_cases (h : Verbatim (gap ++ s)) (hgap : ∀ c ∈ gap, isRawGap c = true) :
    (∀ c ∈ gap, c = ' ') ∨ ∀ c ∈ gap, Gap.isSeparator c = true := by
  induction gap with
  | nil => exact Or.inl fun c hc => absurd hc List.not_mem_nil
  | cons c gap ih =>
    obtain ⟨hc, hraws⟩ := List.forall_mem_cons.1 hgap
    have hkind := (isRawGap_cases hc).imp_right fun hkind => hkind.resolve_left
      (h.noNextLine c List.mem_cons_self)
    cases gap with
    | nil => exact hkind.imp (fun h => List.forall_mem_singleton.2 h) List.forall_mem_singleton.2
    | cons d gap =>
      have hbefore := neighbours_of_cons h.noSpaceBefore rfl
      have hbehind := neighbours_of_cons h.noSpaceBehind rfl
      obtain hspaces | hseparators := ih h.of_cons hraws
      · refine Or.inl (List.forall_mem_cons.2 ⟨hkind.resolve_right fun hc => ?_, hspaces⟩)
        rw [hc, hspaces d List.mem_cons_self, decide_eq_true rfl, Bool.and_self] at hbehind
        cases hbehind
      · refine Or.inr (List.forall_mem_cons.2 ⟨hkind.resolve_left fun hc => ?_, hseparators⟩)
        rw [hc, hseparators d List.mem_cons_self, decide_eq_true rfl, Bool.and_self] at hbefore
        cases hbefore

theorem separator_spec (h : Gap.isSeparator c = true) :
    isPermitted c = true ∧ c.toNat ≠ 0x85 ∧ c ≠ ' ' := by
  simp only [Gap.isSeparator, Bool.or_eq_true, decide_eq_true_eq] at h
  refine ⟨?_, by omega, ?_⟩
  · simp only [isPermitted, Bool.or_eq_true, Bool.and_eq_true, decide_eq_true_eq]
    omega
  · rintro rfl
    revert h
    decide

theorem Verbatim.append_spaces (h : Verbatim s) (hends : EndsRun isRawGap s)
    (hgap : ∀ c ∈ gap, c = ' ') : Verbatim (gap ++ s) := by
  induction gap with
  | nil => exact h
  | cons c gap ih =>
    obtain ⟨rfl, hspaces⟩ := List.forall_mem_cons.1 hgap
    refine (ih hspaces).cons (Or.inl rfl) (by decide) (fun _ d hd => ?_) fun hbreak => by cases hbreak
    cases gap with
    | nil => exact (not_isRawGap_spec (hends d hd)).2.2
    | cons e gap =>
      obtain rfl : e = d := Option.some.inj hd
      rw [hspaces e List.mem_cons_self]
      rfl

theorem Verbatim.append_separators (h : Verbatim s) (hends : EndsRun isRawGap s)
    (hmark : startsMark s = false) (hgap : ∀ c ∈ gap, Gap.isSeparator c = true) :
    Verbatim (gap ++ s) := by
  induction gap with
  | nil => exact h
  | cons c gap ih =>
    obtain ⟨hc, hseparators⟩ := List.forall_mem_cons.1 hgap
    obtain ⟨hpermitted, hline, hspace⟩ := separator_spec hc
    have hrest := ih hseparators
    refine hrest.cons (Or.inl hpermitted) hline (fun h => absurd h hspace) fun _ => ?_
    rw [← startsMark_eq hrest.noNextLine]
    cases gap with
    | nil =>
      refine ⟨fun d hd => ?_, hmark⟩
      rintro rfl
      cases hends _ hd
    | cons d gap =>
      have hd := hseparators d List.mem_cons_self
      refine ⟨fun e he => ?_, startsMark_rawGap (isRawGap_of_isSeparator hd) _⟩
      obtain rfl : d = e := Option.some.inj he
      exact (separator_spec hd).2.2

/-- A text stays as it is behind a gap of spaces, and behind one of separators if it begins no line
that separates documents. -/
theorem verbatim_run_iff (hne : gap ≠ []) (hgap : ∀ c ∈ gap, isRawGap c = true)
    (hends : EndsRun isRawGap s) : Verbatim (gap ++ s) ↔ Verbatim s ∧
      ((∀ c ∈ gap, c = ' ') ∨ (∀ c ∈ gap, Gap.isSeparator c = true) ∧ startsMark s = false) := by
  constructor
  · intro h
    refine ⟨h.of_append, (h.run_cases hgap).imp_right fun hseparators => ⟨hseparators, ?_⟩⟩
    have hs := h.of_append
    obtain ⟨gap, c, rfl⟩ := (List.eq_nil_or_concat' gap).resolve_left hne
    rw [List.append_assoc, List.singleton_append] at h
    have hmark := (Bool.or_eq_false_iff.1 h.of_append.noMark).1
    rwa [hseparators c (by simp), Bool.true_and, ← startsMark_eq hs.noNextLine] at hmark
  · rintro ⟨h, hspaces | ⟨hseparators, hmark⟩⟩
    · exact h.append_spaces hends hspaces
    · exact h.append_separators hends hmark hseparators

/-- Only a gap that ends in a break leads to the start of a line. -/
theorem foldl_isBreak (b : Bool) (hne : gap ≠ []) (h : ∀ c ∈ gap, isBreak c = b) :
    gap.foldl (fun _ c => isBreak c) lineStart = b := by
  induction gap generalizing lineStart with
  | nil => exact absurd rfl hne
  | cons c gap ih =>
    obtain ⟨hc, hgap⟩ := List.forall_mem_cons.1 h
    rw [List.foldl_cons]
    cases gap with
    | nil => exact hc
    | cons d gap => exact ih (List.cons_ne_nil d gap) hgap

theorem foldFrom?_eq_self_iff (hpermitted : ∀ c ∈ s, isPermitted c = true ∨ c.toNat < 32) :
    foldFrom? {} lineStart s = some s ↔ Verbatim s ∧ (lineStart = true → startsMark s = false) := by
  induction s using run_induction isRawGap generalizing lineStart with
  | nil =>
    exact iff_of_true rfl ⟨⟨hpermitted, fun _ hc => absurd hc List.not_mem_nil, rfl, rfl, rfl⟩,
      fun _ => rfl⟩
  | run gap s hne hgap hends ih =>
    have hs : ∀ c ∈ s, isPermitted c = true ∨ c.toNat < 32 := fun c hc =>
      hpermitted c (List.mem_append_right gap hc)
    obtain ⟨hlength, hkept⟩ := text_foldl_add hgap []
    rw [List.length_nil, Nat.zero_add] at hlength
    rw [List.nil_append, eq_self, true_and] at hkept
    let lineStart' := gap.foldl (fun _ c => isBreak c) lineStart
    -- neither the gap nor what is behind it has become longer
    have hparts : foldFrom? {} lineStart (gap ++ s) = some (gap ++ s) ↔
        (gap.foldl Gap.add {}).text = gap ∧ foldFrom? {} lineStart' s = some s := by
      rw [foldFrom?_run hgap hends, Option.map_eq_some_iff]
      constructor
      · rintro ⟨t, ht, heq⟩
        have hle := length_foldFrom?_le ht
        have hlengths := congrArg List.length heq
        rw [List.length_append, List.length_append] at hlengths
        obtain ⟨htext, rfl⟩ := List.append_inj heq (by omega)
        exact ⟨htext, ht⟩
      · rintro ⟨htext, ht⟩
        exact ⟨s, ht, by rw [htext]⟩
    have hmark : startsMark (gap ++ s) = false := by
      obtain ⟨c, gap, rfl⟩ := List.exists_cons_of_ne_nil hne
      exact startsMark_rawGap (hgap c List.mem_cons_self) _
    rw [hparts, hkept, ih hs, verbatim_run_iff hne hgap hends, hmark]
    constructor
    · rintro ⟨hkind, hverbatim, hstart⟩
      refine ⟨⟨hverbatim, hkind.imp_right fun hseparators => ⟨hseparators, hstart ?_⟩⟩, fun _ => rfl⟩
      exact foldl_isBreak true hne fun c hc => Gap.isBreak_of_isSeparator (hseparators c hc)
    · rintro ⟨⟨hverbatim, hspaces | ⟨hseparators, hmark⟩⟩, -⟩
      · have hstart : lineStart' = false := foldl_isBreak false hne fun c hc => by
          rw [hspaces c hc]
          rfl
        exact ⟨Or.inl hspaces, hverbatim, fun h => Bool.noConfusion (hstart.symm.trans h)⟩
      · exact ⟨Or.inr hseparators, hverbatim, fun _ => hmark⟩
  | other c s hc ih =>
    obtain ⟨hc', hs⟩ := List.forall_mem_cons.1 hpermitted
    rw [foldFrom?, hc, if_neg Bool.false_ne_true, verbatim_cons_iff hc]
    split_ifs with hmark
    · rw [Bool.and_eq_true] at hmark
      refine iff_of_false nofun fun h => ?_
      rw [h.2 hmark.1] at hmark
      cases hmark.2
    · rw [Bool.and_eq_true, not_and, Bool.not_eq_true] at hmark
      have hrest : (foldFrom? {} false s).map (fun t => Gap.text {} ++ c :: t) = some (c :: s) ↔
          foldFrom? {} false s = some s := by
        rw [Option.map_eq_some_iff]
        exact ⟨fun ⟨t, ht, heq⟩ => (List.cons.inj heq).2 ▸ ht, fun h => ⟨s, h, rfl⟩⟩
      rw [hrest, ih hs]
      exact ⟨fun h => ⟨⟨hc', h.1⟩, hmark⟩, fun h => ⟨h.1.2, nofun⟩⟩

/-- **The texts that are read as they stand.** -/
theorem verbatim_iff :
    Verbatim s ↔ (∀ c ∈ s, isPermitted c = true ∨ c.toNat < 32) ∧ folded? s = some s := by
  refine ⟨fun h => ⟨h.permitted, (foldFrom?_eq_self_iff h.permitted).2 ⟨h, nofun⟩⟩, fun ⟨hp, h⟩ => ?_⟩
  exact ((foldFrom?_eq_self_iff hp).1 h).1

instance (s : List Char) : Decidable (Verbatim s) :=
  decidable_of_iff (s.all (fun c => isPermitted c || c.toNat < 32) = true ∧ folded? s = some s)
    (by simp [verbatim_iff])

/-- Is a text, as JSON writes it, on one line and short enough for a key? -/
def fitsKey (s : List Char) : Bool :=
  (Json.quoted s).all (fun c => !isBreak c) && (Json.quoted s).length ≤ 1024

theorem fitsKey_iff : fitsKey s = true ↔
    (∀ c ∈ Json.quoted s, isBreak c = false) ∧ (Json.quoted s).length ≤ 1024 := by
  simp [fitsKey]

/-- **The keys that are read as they stand.** -/
theorem verbatimKey_iff : VerbatimKey s ↔
    (∀ c ∈ s, isPermitted c = true ∨ c.toNat < 32) ∧ fitsKey s = true := by
  rw [fitsKey_iff, isBreak_quoted_iff]
  exact ⟨fun h => ⟨h.permitted, h.noBreak, h.short⟩, fun ⟨hpermitted, hbreak, hshort⟩ =>
    ⟨⟨hpermitted, hbreak⟩, hshort⟩⟩

instance (s : List Char) : Decidable (VerbatimKey s) :=
  decidable_of_iff (s.all (fun c => isPermitted c || c.toNat < 32) = true ∧ fitsKey s = true)
    (by simp [verbatimKey_iff])

end LoginGate.Yaml
