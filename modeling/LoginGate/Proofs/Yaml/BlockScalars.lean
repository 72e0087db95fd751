import LoginGate.Proofs.Yaml.Folds
import LoginGate.Yaml.BlockScalar
import Mathlib.Data.List.Basic

/-!
# Literal blocks, as they are written

A text with several lines stands below its mark, each line indented and each break as it is.  The
scanner reads the lines one by one with the breaks behind each; what its last line ends in decides
how much of it is kept, and the mark says just that (`blockScalar?_literal`).
-/

namespace LoginGate.Yaml

open LoginGate.Text

/-- A break that a text keeps as it is. -/
def isKeptBreak (c : Char) : Bool := c = '\n' || Gap.isSeparator c

theorem isBreak_of_isKeptBreak {c : Char} (h : isKeptBreak c = true) : isBreak c = true := by
  rw [isKeptBreak, Bool.or_eq_true, decide_eq_true_eq] at h
  obtain rfl | h := h
  · rfl
  · exact Gap.isBreak_of_isSeparator h

theorem takeBreak_kept {c : Char} (h : isKeptBreak c = true) (rest : List Char)
    (index line column : Nat) :
    (⟨c :: rest, index, line, column⟩ : Cursor).takeBreak =
      ([c], ⟨rest, index + 1, line + 1, 0⟩) := by
  rw [isKeptBreak, Bool.or_eq_true, decide_eq_true_eq] at h
  obtain rfl | h := h
  · rfl
  · exact Gap.takeBreak_separator h rest index line column

/-! ## Empty lines -/

/-- A line starts here, or what is behind the block. -/
structure StartsLine (rest : List Char) : Prop where
  noBreak : ∀ c ∈ rest.head?, isBreak c = false
  noTab : rest.head? ≠ some '\t'

/-- The indentation of the line is just what is skipped. -/
def Indents (indent : Option Nat) (n : Nat) (rest : List Char) : Prop :=
  indent = some n ∨ ((∀ m ∈ indent, n ≤ m) ∧ rest.head? ≠ some ' ')

theorem skipIndentation_eq {indent : Option Nat} {n : Nat} {rest : List Char}
    (h : Indents indent n rest) (index line : Nat) :
    skipIndentation indent ⟨indentation n ++ rest, index, line, 0⟩ =
      ⟨rest, index + n, line, n⟩ := by
  have hskip : (⟨indentation n ++ rest, index, line, 0⟩ : Cursor).skip n =
      ⟨rest, index + n, line, n⟩ := by
    have := Cursor.skip_append (indentation n) rest index line 0
    rwa [indentation, List.length_replicate, Nat.zero_add] at this
  have hspaces : ∀ c ∈ indentation n, (c == ' ') = true := fun c hc => by
    rw [List.eq_of_mem_replicate hc]
    rfl
  obtain rfl | ⟨hle, hspace⟩ := h
  · have hlength : ((indentation n ++ rest).takeWhile (· == ' ')).length = n +
        (rest.takeWhile (· == ' ')).length := by
      rw [List.takeWhile_append_of_pos hspaces, List.length_append, indentation,
        List.length_replicate]
    rw [skipIndentation]
    dsimp only
    rw [hlength, Nat.sub_zero, Nat.min_eq_right (Nat.le_add_right n _), hskip]
  · have hends : EndsRun (· == ' ') rest := fun c hc => beq_false_of_ne fun hc' =>
      hspace (hc' ▸ hc)
    have hlength : ((indentation n ++ rest).takeWhile (· == ' ')).length = n := by
      rw [takeWhile_run hspaces hends, indentation, List.length_replicate]
    cases indent with
    | none =>
      rw [skipIndentation]
      dsimp only
      rw [hlength, hskip]
    | some m =>
      rw [skipIndentation]
      dsimp only
      rw [hlength, Nat.sub_zero, Nat.min_eq_left (hle m rfl), hskip]

theorem blockBreaks?_breaks {indent : Option Nat} {n : Nat} {rest : List Char}
    (hindent : Indents indent n rest) (hrest : StartsLine rest) {breaks : List Char}
    (hbreaks : ∀ c ∈ breaks, isKeptBreak c = true) (fuel : Nat) (read : List Char)
    (most index line : Nat) :
    blockBreaks? indent (fuel + breaks.length + 1) read most
        ⟨breaks ++ indentation n ++ rest, index, line, 0⟩ =
      some (read ++ breaks, max most n,
        ⟨rest, index + breaks.length + n, line + breaks.length, n⟩) := by
  induction breaks generalizing read most index line with
  | nil =>
    have hsees : (⟨rest, index + n, line, n⟩ : Cursor).sees isBreak = false := by
      rw [Cursor.sees]
      cases hhead : rest.head? with
      | none => rfl
      | some c => exact hrest.noBreak c hhead
    have htab : (⟨rest, index + n, line, n⟩ : Cursor).startsWith '\t' = false :=
      beq_false_of_ne hrest.noTab
    rw [List.nil_append, List.length_nil, blockBreaks?, skipIndentation_eq hindent]
    dsimp only
    rw [htab, Bool.false_and, if_neg Bool.false_ne_true, hsees, if_neg Bool.false_ne_true,
      List.append_nil]
    rfl
  | cons c breaks ih =>
    have hc := hbreaks c List.mem_cons_self
    have hnone : Indents indent 0 (c :: breaks ++ indentation n ++ rest) := by
      refine Or.inr ⟨fun m _ => Nat.zero_le m, fun hspace => ?_⟩
      obtain rfl : c = ' ' := Option.some.inj hspace
      exact Bool.noConfusion hc
    have htab : (⟨c :: breaks ++ indentation n ++ rest, index, line, 0⟩ : Cursor).startsWith '\t'
        = false := by
      refine beq_false_of_ne fun htab => ?_
      obtain rfl : c = '\t' := Option.some.inj htab
      exact Bool.noConfusion hc
    have hsees : (⟨c :: breaks ++ indentation n ++ rest, index, line, 0⟩ : Cursor).sees isBreak
        = true := isBreak_of_isKeptBreak hc
    rw [blockBreaks?, show (⟨c :: breaks ++ indentation n ++ rest, index, line, 0⟩ : Cursor) =
      ⟨indentation 0 ++ (c :: breaks ++ indentation n ++ rest), index, line, 0⟩ from rfl,
      skipIndentation_eq hnone]
    dsimp only
    rw [Nat.add_zero, htab, Bool.false_and, if_neg Bool.false_ne_true, hsees, if_pos rfl,
      List.cons_append, List.cons_append, takeBreak_kept hc]
    dsimp only
    rw [List.length_cons, ← Nat.add_assoc, ih fun d hd => hbreaks d (List.mem_cons_of_mem c hd)]
    have hindex : index + 1 + breaks.length + n = index + (breaks.length + 1) + n := by omega
    have hline : line + 1 + breaks.length = line + (breaks.length + 1) := by omega
    rw [hindex, hline, List.append_assoc, List.singleton_append, Nat.max_zero]

theorem Cursor.blockBreaks?_breaks {indent : Option Nat} {n : Nat} {rest : List Char}
    (hindent : Indents indent n rest) (hrest : StartsLine rest) {breaks : List Char}
    (hbreaks : ∀ c ∈ breaks, isKeptBreak c = true) (index line : Nat) :
    (⟨breaks ++ indentation n ++ rest, index, line, 0⟩ : Cursor).blockBreaks? indent =
      some (breaks, n, ⟨rest, index + breaks.length + n, line + breaks.length, n⟩) := by
  have hread := Yaml.blockBreaks?_breaks hindent hrest hbreaks (n + rest.length) [] 0 index line
  have hfuel : (breaks ++ indentation n ++ rest).length + 1 =
      n + rest.length + breaks.length + 1 := by
    simp only [List.length_append, indentation, List.length_replicate]
    omega
  rw [Cursor.blockBreaks?]
  dsimp only
  rw [hfuel, hread, List.nil_append, Nat.zero_max]

/-! ## Lines -/

theorem indentLines_breaks {breaks : List Char} (h : ∀ c ∈ breaks, isBreak c = true)
    (hne : breaks ≠ []) (column : Nat) (write : Char → List Char) (last fresh : Bool)
    (s : List Char) :
    indentLines column write last fresh (breaks ++ s) =
      breaks ++ indentLines column write last true s := by
  induction breaks generalizing fresh with
  | nil => exact absurd rfl hne
  | cons c breaks ih =>
    rw [List.cons_append, indentLines, h c List.mem_cons_self, if_pos rfl, List.cons_append]
    cases breaks with
    | nil => rfl
    | cons d breaks =>
      rw [ih (fun x hx => h x (List.mem_cons_of_mem c hx)) (List.cons_ne_nil d breaks)]

theorem indentLines_line {c : Char} (h : isBreak c = false) (column : Nat)
    (write : Char → List Char) (last : Bool) (s : List Char) :
    indentLines column write last true (c :: s) =
      indentation column ++ indentLines column write last false (c :: s) := by
  rw [indentLines, indentLines, h, if_neg Bool.false_ne_true, if_neg Bool.false_ne_true,
    if_pos rfl, if_neg Bool.false_ne_true, List.nil_append, List.append_assoc]

/-- What stands behind a block: a break, unless the text ends in one, and the line of what comes
next. -/
def afterBlock (s : List Char) (n : Nat) (rest : List Char) : List Char :=
  (if s.getLast?.any isBreak then [] else ['\n']) ++ indentation n ++ rest

/-- The text so far, as it has been read. -/
def BlockText.whole (t : BlockText) : List Char := t.read.reverse ++ t.lastBreak ++ t.emptyLines

/-- A block is read to its end: its last line, and the breaks that the text ends in. -/
structure Ended (text : List Char) (t : BlockText) : Prop where
  lastLine : t.read.reverse.getLast?.any (!isBreak ·) = true
  breaks : (text = t.read.reverse ∧ t.emptyLines = []) ∨
    (text = t.whole ∧ ∃ b, t.lastBreak = [b] ∧ ∀ c ∈ b :: t.emptyLines, isBreak c = true)

variable {column fuel index line n : Nat} {rest : List Char} {t : BlockText}

theorem blockLines?_line {text breaks : List Char} {b : Char}
    (htext : ∀ c ∈ text, isBreak c = false) (hne : text ≠ [])
    (hbreaks : ∀ c ∈ b :: breaks, isKeptBreak c = true) (hindent : Indents (some column) n rest)
    (hrest : StartsLine rest) :
    ∃ index' line' indented, line < line' ∧
      blockLines? true column (fuel + 1) t
          ⟨text ++ (b :: breaks ++ indentation n ++ rest), index, line, column⟩ =
        blockLines? true column fuel ⟨text.reverse ++ (t.lastBreak ++ t.emptyLines).reverse ++ t.read,
          [b], breaks, indented⟩ ⟨rest, index', line', n⟩ := by
  have hb := hbreaks b List.mem_cons_self
  have hend : (⟨text ++ (b :: breaks ++ indentation n ++ rest), index, line, column⟩
      : Cursor).atEnd = false := by
    obtain ⟨c, text, rfl⟩ := List.exists_cons_of_ne_nil hne
    rfl
  have hspan : (⟨text ++ (b :: breaks ++ indentation n ++ rest), index, line, column⟩
      : Cursor).span (!isBreak ·) = (text, ⟨b :: breaks ++ indentation n ++ rest,
        index + text.length, line, column + text.length⟩) := by
    have hrun : ∀ c ∈ text, (!isBreak c) = true := fun c hc => by rw [htext c hc, Bool.not_false]
    have hends : EndsRun (!isBreak ·) (b :: breaks ++ indentation n ++ rest) :=
      endsRun_cons (by rw [isBreak_of_isKeptBreak hb, Bool.not_true]) _
    rw [Cursor.span]
    dsimp only
    rw [takeWhile_run hrun hends, Cursor.skip_append]
  have hlater := Cursor.blockBreaks?_breaks hindent hrest
    (fun c hc => hbreaks c (List.mem_cons_of_mem b hc)) (index + text.length + 1) (line + 1)
  refine ⟨index + text.length + 1 + breaks.length + n, line + 1 + breaks.length,
    text.head?.any isWhite, by omega, ?_⟩
  rw [blockLines?, hend, decide_eq_true rfl, Bool.not_false, Bool.true_and, if_pos rfl, hspan]
  dsimp only
  rw [List.cons_append, List.cons_append, takeBreak_kept hb]
  dsimp only
  rw [hlater, Option.bind_eq_bind, Option.bind_some]
  rfl

theorem blockLines?_stop (h : n ≠ column) :
    blockLines? true column (fuel + 1) t ⟨rest, index, line, n⟩ =
      some (t, ⟨rest, index, line, n⟩) := by
  rw [blockLines?, decide_eq_false h, Bool.false_and, if_neg Bool.false_ne_true]

/-- The characters of a text whose lines a block can hold. -/
def FitsLines (s : List Char) : Prop :=
  ∀ c ∈ s, c ≠ '\t' ∧ (isBreak c = true → isKeptBreak c = true)

theorem FitsLines.append_right {s s' : List Char} (h : FitsLines (s ++ s')) : FitsLines s' :=
  fun c hc => h c (List.mem_append_right s hc)

theorem afterBlock_append {s s' : List Char} (h : s' ≠ []) (n : Nat) (rest : List Char) :
    afterBlock (s ++ s') n rest = afterBlock s' n rest := by
  rw [afterBlock, List.getLast?_append_of_ne_nil s h, afterBlock]

/-- Where a block ends: to the left of its lines. -/
structure EndsBlock (column n : Nat) (rest : List Char) : Prop where
  lt : n < column
  startsLine : StartsLine rest
  noSpace : rest.head? ≠ some ' '

theorem EndsBlock.indents (h : EndsBlock column n rest) : Indents (some column) n rest := by
  refine Or.inr ⟨fun m hm => ?_, h.noSpace⟩
  rw [← Option.some.inj hm]
  exact Nat.le_of_lt h.lt

theorem blockLines?_lastLine (h : EndsBlock column n rest) {text breaks : List Char} {b : Char}
    (htext : ∀ c ∈ text, isBreak c = false) (hne : text ≠ [])
    (hbreaks : ∀ c ∈ b :: breaks, isKeptBreak c = true) (hfuel : 0 < fuel) :
    ∃ t' behind, behind.rest = rest ∧ behind.column = n ∧ line < behind.line ∧
      t'.read.reverse = t.whole ++ text ∧ t'.lastBreak = [b] ∧ t'.emptyLines = breaks ∧
      blockLines? true column (fuel + 1) t
        ⟨text ++ (b :: breaks ++ indentation n ++ rest), index, line, column⟩ = some (t', behind) := by
  obtain ⟨fuel, rfl⟩ := Nat.exists_eq_succ_of_ne_zero (Nat.ne_of_gt hfuel)
  obtain ⟨index', line', indented, hline, hread⟩ := @blockLines?_line column (fuel + 1) index line n
    rest t text breaks b htext hne hbreaks h.indents h.startsLine
  refine ⟨_, ⟨rest, index', line', n⟩, rfl, rfl, hline, ?_, rfl, rfl,
    hread.trans (blockLines?_stop (Nat.ne_of_lt h.lt))⟩
  simp [BlockText.whole]

theorem any_getLast?_append {text : List Char} (htext : ∀ c ∈ text, isBreak c = false)
    (hne : text ≠ []) (s : List Char) : (s ++ text).getLast?.any (!isBreak ·) = true := by
  obtain ⟨c, hc⟩ := Option.ne_none_iff_exists'.1 (mt List.getLast?_eq_none_iff.1 hne)
  rw [List.getLast?_append_of_ne_nil s hne, hc, Option.any_some,
    htext c (List.mem_of_getLast? hc), Bool.not_false]

theorem afterBlock_line {text : List Char} (htext : ∀ c ∈ text, isBreak c = false)
    (hne : text ≠ []) (n : Nat) (rest : List Char) :
    afterBlock text n rest = '\n' :: [] ++ indentation n ++ rest := by
  obtain ⟨c, hc⟩ := Option.ne_none_iff_exists'.1 (mt List.getLast?_eq_none_iff.1 hne)
  rw [afterBlock, hc, Option.any_some, htext c (List.mem_of_getLast? hc),
    if_neg Bool.false_ne_true]

theorem afterBlock_breaks {breaks : List Char} (hbreaks : ∀ c ∈ breaks, isBreak c = true)
    (hne : breaks ≠ []) (s : List Char) (n : Nat) (rest : List Char) :
    afterBlock (s ++ breaks) n rest = indentation n ++ rest := by
  obtain ⟨c, hc⟩ := Option.ne_none_iff_exists'.1 (mt List.getLast?_eq_none_iff.1 hne)
  rw [afterBlock_append hne, afterBlock, hc, Option.any_some, hbreaks c (List.mem_of_getLast? hc),
    if_pos rfl, List.nil_append]

theorem startsLine_line {x : Char} {more : List Char} (hx : isBreak x = false)
    (hfits : FitsLines (x :: more)) (column : Nat) (tail : List Char) :
    StartsLine (indentLines column (fun c => [c]) false false (x :: more) ++ tail) := by
  rw [indentLines, hx, if_neg Bool.false_ne_true, if_neg Bool.false_ne_true]
  refine ⟨fun d hd => ?_, fun htab => ?_⟩
  · rw [← Option.some.inj hd]
    exact hx
  · exact (hfits x List.mem_cons_self).1 (Option.some.inj htab)

/-- The last line of a text is read, with the breaks that the text ends in. -/
theorem blockLines?_ended (h : EndsBlock column n rest) {text breaks : List Char}
    (htext : ∀ c ∈ text, isBreak c = false) (hne : text ≠ [])
    (hkept : ∀ c ∈ breaks, isKeptBreak c = true) (hfuel : (text ++ breaks).length < fuel) :
    ∃ t' behind, behind.rest = rest ∧ behind.column = n ∧ line < behind.line ∧
      Ended (t.whole ++ (text ++ breaks)) t' ∧
      blockLines? true column fuel t ⟨text ++ (indentLines column (fun c => [c]) false false breaks ++
        afterBlock (text ++ breaks) n rest), index, line, column⟩ = some (t', behind) := by
  have hpos := List.length_pos_of_ne_nil hne
  rw [List.length_append] at hfuel
  obtain ⟨fuel, rfl⟩ := Nat.exists_eq_succ_of_ne_zero (Nat.ne_of_gt (Nat.zero_lt_of_lt hfuel))
  cases breaks with
  | nil =>
    obtain ⟨t', behind, hrest, hcolumn, hline, hread, -, hempty, hlines⟩ :=
      @blockLines?_lastLine column fuel index line n rest t h text [] '\n' htext hne
        (fun c hc => by rw [List.mem_singleton.1 hc]; rfl) (by omega)
    rw [List.append_nil]
    refine ⟨t', behind, hrest, hcolumn, hline, ⟨?_, Or.inl ⟨hread.symm, hempty⟩⟩, ?_⟩
    · rw [hread]
      exact any_getLast?_append htext hne _
    · rw [indentLines, if_neg (by simp), List.nil_append, afterBlock_line htext hne, hlines]
  | cons b breaks =>
    have hbreaks : ∀ c ∈ b :: breaks, isBreak c = true := fun c hc =>
      isBreak_of_isKeptBreak (hkept c hc)
    have hne' := List.cons_ne_nil b breaks
    obtain ⟨t', behind, hrest, hcolumn, hline, hread, hlast, hempty, hlines⟩ :=
      @blockLines?_lastLine column fuel index line n rest t h text breaks b htext hne hkept
        (by omega)
    refine ⟨t', behind, hrest, hcolumn, hline, ⟨?_, Or.inr ⟨?_, b, hlast, ?_⟩⟩, ?_⟩
    · rw [hread]
      exact any_getLast?_append htext hne _
    · have hwhole : t'.whole = t.whole ++ text ++ [b] ++ breaks := by
        rw [BlockText.whole, hread, hlast, hempty]
      rw [hwhole, List.append_assoc _ [b], List.singleton_append, List.append_assoc]
    · rw [hempty]
      exact hbreaks
    · rw [← List.append_nil (b :: breaks), indentLines_breaks hbreaks hne', List.append_nil,
        indentLines, if_neg (by simp), List.append_nil, afterBlock_breaks hbreaks hne',
        ← List.append_assoc (b :: breaks), hlines]

/-- Lines are read to the end of the text; `text` is what has been seen of the first. -/
theorem blockLines?_lines (h : EndsBlock column n rest) (s : List Char) :
    ∀ text t fuel index line, (∀ c ∈ text, isBreak c = false) → FitsLines (text ++ s) →
      (text ++ s).head?.any (!isBreak ·) = true → (text ++ s).length < fuel →
      ∃ t' behind, behind.rest = rest ∧ behind.column = n ∧ line < behind.line ∧
        Ended (t.whole ++ (text ++ s)) t' ∧
        blockLines? true column fuel t ⟨text ++ (indentLines column (fun c => [c]) false false s ++
          afterBlock (text ++ s) n rest), index, line, column⟩ = some (t', behind) := by
  induction s using run_induction isBreak with
  | nil =>
    intro text t fuel index line htext _ hhead hfuel
    have hne : text ≠ [] := by
      rintro rfl
      exact Bool.noConfusion hhead
    exact blockLines?_ended h htext hne (fun c hc => absurd hc List.not_mem_nil) hfuel
  | run breaks more hne' hbreaks hmore ih =>
    intro text t fuel index line htext hfits hhead hfuel
    have hne : text ≠ [] := by
      rintro rfl
      obtain ⟨c, breaks, rfl⟩ := List.exists_cons_of_ne_nil hne'
      rw [List.nil_append, List.cons_append, List.head?_cons, Option.any_some,
        hbreaks c List.mem_cons_self] at hhead
      exact Bool.noConfusion hhead
    have hkept : ∀ c ∈ breaks, isKeptBreak c = true := fun c hc =>
      (hfits c (List.mem_append_right text (List.mem_append_left more hc))).2 (hbreaks c hc)
    cases more with
    | nil =>
      rw [List.append_nil] at hfuel ⊢
      exact blockLines?_ended h htext hne hkept hfuel
    | cons x more =>
      -- a line and the breaks behind it, and then the lines of the rest
      have hpos := List.length_pos_of_ne_nil hne
      obtain ⟨fuel, rfl⟩ := Nat.exists_eq_succ_of_ne_zero (Nat.ne_of_gt (Nat.zero_lt_of_lt hfuel))
      obtain ⟨b, breaks, rfl⟩ := List.exists_cons_of_ne_nil hne'
      have hx := hmore x rfl
      have hfits' : FitsLines (x :: more) := by
        rw [← List.append_assoc] at hfits
        exact hfits.append_right
      have hstarts := startsLine_line hx hfits' column (afterBlock (x :: more) n rest)
      obtain ⟨index', line', indented, hline, hread⟩ := @blockLines?_line column fuel index line
        column _ t text breaks b htext hne hkept (Or.inl rfl) hstarts
      obtain ⟨t', behind, hrest', hcolumn, hline', hended, hlines⟩ := ih []
        ⟨text.reverse ++ (t.lastBreak ++ t.emptyLines).reverse ++ t.read, [b], breaks, indented⟩ fuel
        index' line' (fun d hd => absurd hd List.not_mem_nil) hfits'
        (by rw [List.nil_append, List.head?_cons, Option.any_some, hx]; rfl)
        (by simp only [List.length_append, List.nil_append] at hfuel ⊢; omega)
      refine ⟨t', behind, hrest', hcolumn, by omega, ?_, ?_⟩
      · simpa [BlockText.whole] using hended
      · rw [indentLines_breaks hbreaks hne', indentLines_line hx, ← List.append_assoc text (b :: breaks),
          afterBlock_append (List.cons_ne_nil x more)]
        refine Eq.trans ?_ hlines
        rw [List.nil_append, List.nil_append, ← hread]
        simp only [List.append_assoc]
  | other c more hc ih =>
    intro text t fuel index line htext hfits hhead hfuel
    have hassoc : text ++ c :: more = text ++ [c] ++ more := by
      rw [List.append_assoc, List.singleton_append]
    rw [hassoc] at hfits hhead hfuel ⊢
    have htext' : ∀ d ∈ text ++ [c], isBreak d = false := fun d hd => by
      obtain hd | hd := List.mem_append.1 hd
      · exact htext d hd
      · rw [List.mem_singleton.1 hd]
        exact hc
    obtain ⟨t', behind, hrest', hcolumn, hline, hended, hread⟩ :=
      ih (text ++ [c]) t fuel index line htext' hfits hhead hfuel
    refine ⟨t', behind, hrest', hcolumn, hline, hended, ?_⟩
    rw [indentLines, hc, if_neg Bool.false_ne_true, if_neg Bool.false_ne_true, List.nil_append,
      ← hread, List.append_assoc [c], ← List.append_assoc text [c]]

/-! ## Headers -/

/-- The mark of what happens to the breaks at the end. -/
inductive MarkOf : List Char → Chomping → Prop
  | strip : MarkOf ['-'] .strip
  | clip : MarkOf [] .clip
  | keep : MarkOf ['+'] .keep

theorem chompingMark_line {s : List Char} (h : s.getLast?.any (!isBreak ·) = true) :
    chompingMark s = ['-'] := by
  obtain ⟨c, hc, hbreak⟩ := (Option.any_eq_true _ _).1 h
  obtain ⟨s, rfl⟩ := List.getLast?_eq_some_iff.1 hc
  rw [chompingMark, List.reverse_append, List.reverse_singleton, List.singleton_append]
  rw [Bool.not_eq_true'] at hbreak
  cases s.reverse with
  | nil =>
    dsimp only
    rw [hbreak, if_neg Bool.false_ne_true]
  | cons d s => exact if_pos (by rw [hbreak, Bool.not_false])

theorem chompingMark_break {s : List Char} {b : Char} (h : s.getLast?.any (!isBreak ·) = true)
    (hb : isBreak b = true) : chompingMark (s ++ [b]) = [] := by
  obtain ⟨c, hc, hbreak⟩ := (Option.any_eq_true _ _).1 h
  obtain ⟨s, rfl⟩ := List.getLast?_eq_some_iff.1 hc
  rw [Bool.not_eq_true'] at hbreak
  rw [chompingMark, List.reverse_append, List.reverse_append, List.reverse_singleton,
    List.reverse_singleton, List.singleton_append, List.singleton_append]
  dsimp only
  rw [hb, hbreak, Bool.not_true, if_neg Bool.false_ne_true, if_neg Bool.false_ne_true]

theorem chompingMark_breaks {breaks : List Char} (h : ∀ c ∈ breaks, isBreak c = true)
    (hlength : 2 ≤ breaks.length) (s : List Char) : chompingMark (s ++ breaks) = ['+'] := by
  rw [chompingMark, List.reverse_append]
  have hmem (c : Char) (hc : c ∈ breaks.reverse) : isBreak c = true := h c (List.mem_reverse.1 hc)
  rw [← List.length_reverse] at hlength
  match hreverse : breaks.reverse, hlength with
  | a :: b :: more, _ =>
    rw [hreverse] at hmem
    dsimp only [List.cons_append]
    rw [hmem a (by simp), hmem b (by simp)]
    rfl

theorem Ended.finish {text : List Char} (h : Ended text t) :
    ∃ chomping, MarkOf (chompingMark text) chomping ∧ t.finish chomping = text := by
  obtain ⟨hline, ⟨htext, hempty⟩ | ⟨htext, b, hlast, hbreaks⟩⟩ := h
  · refine ⟨.strip, ?_, ?_⟩
    · rw [htext, chompingMark_line hline]
      exact .strip
    · rw [BlockText.finish, htext, List.append_nil]
  · cases hempty : t.emptyLines with
    | nil =>
      rw [BlockText.whole, hempty, hlast, List.append_nil] at htext
      refine ⟨.clip, ?_, ?_⟩
      · rw [htext, chompingMark_break hline (hbreaks b List.mem_cons_self)]
        exact .clip
      · rw [BlockText.finish, htext, hlast]
    | cons c breaks =>
      rw [hempty] at hbreaks
      refine ⟨.keep, ?_, ?_⟩
      · rw [htext, BlockText.whole, hlast, hempty, List.append_assoc, List.singleton_append,
          chompingMark_breaks hbreaks (by simp)]
        exact .keep
      · rw [BlockText.finish, htext, BlockText.whole, List.append_assoc]

theorem markOf_breaks {breaks : List Char} (h : ∀ c ∈ breaks, isBreak c = true)
    (hne : breaks ≠ []) : MarkOf (chompingMark breaks) .keep := by
  match breaks, hne with
  | [b], _ =>
    rw [show chompingMark [b] = if isBreak b then ['+'] else ['-'] from rfl,
      if_pos (h b List.mem_cons_self)]
    exact .keep
  | a :: b :: breaks, _ =>
    have := chompingMark_breaks h (by simp) []
    rw [List.nil_append] at this
    rw [this]
    exact .keep

theorem blockHeader?_marks {mark : List Char} {chomping : Chomping} (h : MarkOf mark chomping)
    (s rest : List Char) :
    blockHeader? (indentationMark s ++ mark ++ '\n' :: rest) =
      some (⟨chomping, if s.head?.any (fun c => c = ' ' || isBreak c) then some 2 else none⟩,
        (indentationMark s ++ mark).length) := by
  rw [indentationMark]
  cases s.head?.any fun c => c = ' ' || isBreak c <;> cases h <;> rfl

/-! ## Whole blocks -/

theorem length_le_indentLines (column : Nat) (last fresh : Bool) (s : List Char) :
    s.length ≤ (indentLines column (fun c => [c]) last fresh s).length := by
  induction s generalizing fresh with
  | nil => exact Nat.zero_le _
  | cons c s ih =>
    rw [indentLines]
    split
    · exact Nat.succ_le_succ (ih true)
    · have := ih false
      simp only [List.length_append, List.length_cons, List.length_nil]
      omega

/-- What the scanner reads below the header of a block. -/
structure ReadsBlock (s : List Char) (column n : Nat) (rest : List Char) (told : Option Nat)
    (c : Cursor) : Prop where
  reads : ∃ breaks most body t behind chomping,
    c.blockBreaks? told = some (breaks, most, body) ∧ (told = none → most = column) ∧
    blockLines? true column (body.rest.length + 1) { emptyLines := breaks } body = some (t, behind) ∧
    MarkOf (chompingMark s) chomping ∧ t.finish chomping = s ∧
    behind.rest = rest ∧ behind.column = n ∧ c.line < behind.line

theorem readsBlock_breaks (h : EndsBlock column n rest) {breaks : List Char} (hne : breaks ≠ [])
    (hbreaks : ∀ c ∈ breaks, isKeptBreak c = true) (index line : Nat) :
    ReadsBlock breaks column n rest (some column)
      ⟨indentLines column (fun c => [c]) false true breaks ++ afterBlock breaks n rest, index, line,
        0⟩ := by
  have hbreaks' : ∀ c ∈ breaks, isBreak c = true := fun c hc => isBreak_of_isKeptBreak (hbreaks c hc)
  have hwritten : indentLines column (fun c => [c]) false true breaks ++ afterBlock breaks n rest =
      breaks ++ indentation n ++ rest := by
    have hlines := indentLines_breaks hbreaks' hne column (fun c => [c]) false true []
    have hafter := afterBlock_breaks hbreaks' hne [] n rest
    rw [List.append_nil] at hlines
    rw [List.nil_append] at hafter
    rw [hlines, hafter, indentLines, if_neg (by simp), List.append_nil, List.append_assoc]
  have hread := Cursor.blockBreaks?_breaks h.indents h.startsLine hbreaks index line
  have hpos := List.length_pos_of_ne_nil hne
  rw [hwritten]
  refine ⟨breaks, n, ⟨rest, index + breaks.length + n, line + breaks.length, n⟩,
    { emptyLines := breaks }, ⟨rest, index + breaks.length + n, line + breaks.length, n⟩, .keep,
    hread, by simp, ?_, markOf_breaks hbreaks' hne, rfl, rfl, rfl, ?_⟩
  · exact blockLines?_stop (Nat.ne_of_lt h.lt)
  · dsimp only
    omega

theorem readsBlock_lines (h : EndsBlock column n rest) {breaks more : List Char} {x : Char}
    (hbreaks : ∀ c ∈ breaks, isBreak c = true) (hx : isBreak x = false)
    (hfits : FitsLines (breaks ++ x :: more)) {told : Option Nat}
    (htold : told = some column ∨ (told = none ∧ x ≠ ' ')) (index line : Nat) :
    ReadsBlock (breaks ++ x :: more) column n rest told
      ⟨indentLines column (fun c => [c]) false true (breaks ++ x :: more) ++
        afterBlock (breaks ++ x :: more) n rest, index, line, 0⟩ := by
  have hkept : ∀ c ∈ breaks, isKeptBreak c = true := fun c hc =>
    (hfits c (List.mem_append_left _ hc)).2 (hbreaks c hc)
  let body := indentLines column (fun c => [c]) false false (x :: more) ++
    afterBlock (x :: more) n rest
  have hwritten : indentLines column (fun c => [c]) false true (breaks ++ x :: more) ++
      afterBlock (breaks ++ x :: more) n rest = breaks ++ indentation column ++ body := by
    rw [afterBlock_append (List.cons_ne_nil x more)]
    cases breaks with
    | nil =>
      rw [List.nil_append, List.nil_append, indentLines_line hx, List.append_assoc]
    | cons b breaks =>
      rw [indentLines_breaks hbreaks (List.cons_ne_nil b breaks), indentLines_line hx,
        List.append_assoc, List.append_assoc, List.append_assoc]
  have hhead : body.head? = some x := by
    simp only [body, indentLines, hx, Bool.false_eq_true, if_false, List.nil_append,
      List.cons_append, List.head?_cons]
  have hstarts : StartsLine body := startsLine_line hx hfits.append_right column _
  have hindents : Indents told column body := by
    obtain htold | ⟨rfl, hspace⟩ := htold
    · exact Or.inl htold
    · refine Or.inr ⟨fun m hm => (by cases hm), fun hc => ?_⟩
      rw [hhead] at hc
      exact hspace (Option.some.inj hc)
  have hread := Cursor.blockBreaks?_breaks hindents hstarts hkept index line
  have hfuel : (x :: more).length < body.length + 1 := by
    have := length_le_indentLines column false false (x :: more)
    simp only [body, List.length_append]
    omega
  obtain ⟨t, behind, hrest, hcolumn, hline, hended, hlines⟩ := blockLines?_lines h (x :: more) []
    { emptyLines := breaks } (body.length + 1) (index + breaks.length + column)
    (line + breaks.length) (fun c hc => absurd hc List.not_mem_nil) hfits.append_right
    (by rw [List.nil_append, List.head?_cons, Option.any_some, hx, Bool.not_false]) hfuel
  obtain ⟨chomping, hmark, hfinish⟩ := hended.finish
  rw [hwritten]
  refine ⟨breaks, column, ⟨body, index + breaks.length + column, line + breaks.length, column⟩,
    t, behind, chomping, hread, fun _ => rfl, hlines, hmark, hfinish, hrest, hcolumn, ?_⟩
  dsimp only
  omega

theorem StartsToken.endsBlock (h : StartsToken rest) (hn : n < column) :
    EndsBlock column n rest where
  lt := hn
  startsLine := by
    refine ⟨fun c hc => isBreak_of_not_isGap (h c hc).1, fun htab => ?_⟩
    have := (h '\t' htab).1
    exact Bool.noConfusion this
  noSpace hspace := by
    have := (h ' ' hspace).1
    exact Bool.noConfusion this

/-- The indentation that a header tells: where it could not be seen in the first line. -/
def toldIndentation (column : Nat) (s : List Char) : Option Nat :=
  if s.head?.any (fun c => c = ' ' || isBreak c) then some column else none

theorem readsBlock (h : EndsBlock column n rest) {s : List Char} (hne : s ≠ [])
    (hfits : FitsLines s) (index line : Nat) :
    ReadsBlock s column n rest (toldIndentation column s)
      ⟨indentLines column (fun c => [c]) false true s ++ afterBlock s n rest, index, line, 0⟩ := by
  have hsplit := List.takeWhile_append_dropWhile (p := isBreak) (l := s)
  have hbreaks : ∀ c ∈ s.takeWhile isBreak, isBreak c = true := fun c hc =>
    List.mem_takeWhile_imp hc
  cases hmore : s.dropWhile isBreak with
  | nil =>
    rw [hmore, List.append_nil] at hsplit
    rw [hsplit] at hbreaks
    have htold : toldIndentation column s = some column := by
      obtain ⟨c, s, rfl⟩ := List.exists_cons_of_ne_nil hne
      exact if_pos (by rw [List.head?_cons, Option.any_some, hbreaks c List.mem_cons_self,
        Bool.or_true])
    rw [htold]
    exact readsBlock_breaks h hne (fun c hc => (hfits c hc).2 (hbreaks c hc)) index line
  | cons x more =>
    have hx : isBreak x = false := endsRun_dropWhile isBreak s x (by rw [hmore]; rfl)
    rw [hmore] at hsplit
    rw [← hsplit] at hfits ⊢
    refine readsBlock_lines h hbreaks hx hfits ?_ index line
    rw [hsplit]
    cases htold : s.head?.any fun c => c = ' ' || isBreak c with
    | true => exact Or.inl (if_pos htold)
    | false =>
      refine Or.inr ⟨if_neg (by rw [htold]; exact Bool.false_ne_true), ?_⟩
      obtain ⟨c, s, rfl⟩ := List.exists_cons_of_ne_nil hne
      rw [List.head?_cons, Option.any_some, Bool.or_eq_false_iff] at htold
      rw [List.dropWhile_cons_of_neg (by rw [htold.2]; exact Bool.false_ne_true)] at hmore
      rw [← (List.cons.inj hmore).1]
      simpa using htold.1

/-- A literal block is read. -/
theorem blockScalar?_literal {m : Nat} (hn : n ≤ m) (hrest : StartsToken rest) {s : List Char}
    (hne : s ≠ []) (hfits : FitsLines s) (index line column : Nat) :
    ∃ behind, behind.rest = rest ∧ behind.column = n ∧ line < behind.line ∧
      (⟨literalBlock (m + 2) s ++ afterBlock s n rest, index, line, column⟩
        : Cursor).blockScalar? true (some m) = some (s, behind) := by
  have hends : EndsBlock (m + 2) n rest := hrest.endsBlock (by omega)
  have hreads := readsBlock hends hne hfits
  let width := (indentationMark s ++ chompingMark s).length
  obtain ⟨breaks, most, body, t, behind, chomping, hbreaks, hmost, hlines, hmark, hfinish, hrest',
    hcolumn, hline⟩ := (hreads (index + (1 + width) + 1) (line + 1)).reads
  refine ⟨behind, hrest', hcolumn, Nat.lt_trans (Nat.lt_succ_self line) hline, ?_⟩
  have hwritten : literalBlock (m + 2) s ++ afterBlock s n rest =
      '|' :: (indentationMark s ++ chompingMark s ++ '\n' ::
        (indentLines (m + 2) (fun c => [c]) false true s ++ afterBlock s n rest)) := by
    simp only [literalBlock, List.cons_append, List.append_assoc]
  have hskip : ((⟨literalBlock (m + 2) s ++ afterBlock s n rest, index, line, column⟩
      : Cursor).skip (1 + width)).skipLineEnd? =
        some ⟨indentLines (m + 2) (fun c => [c]) false true s ++ afterBlock s n rest,
          index + (1 + width) + 1, line + 1, 0⟩ := by
    have hdrop : (literalBlock (m + 2) s ++ afterBlock s n rest).drop (1 + width) = '\n' ::
        (indentLines (m + 2) (fun c => [c]) false true s ++ afterBlock s n rest) := by
      rw [hwritten, Nat.add_comm, List.drop_succ_cons, List.drop_left]
    rw [Cursor.skip]
    dsimp only
    rw [hdrop]
    rfl
  have hheader := blockHeader?_marks hmark s
    (indentLines (m + 2) (fun c => [c]) false true s ++ afterBlock s n rest)
  have htold : ((if s.head?.any (fun c => c = ' ' || isBreak c) then some 2 else none).map
      fun k => (some m).getD 0 + k) = toldIndentation (m + 2) s := by
    unfold toldIndentation
    split <;> rfl
  have hindent : (toldIndentation (m + 2) s).getD (max (max most (m + 1)) 1) = m + 2 := by
    unfold toldIndentation at hmost ⊢
    split
    · rfl
    · rename_i h
      rw [if_neg h] at hmost
      rw [Option.getD_none, hmost rfl]
      omega
  rw [Cursor.blockScalar?]
  dsimp only
  rw [show (literalBlock (m + 2) s ++ afterBlock s n rest).drop 1 = indentationMark s ++
    chompingMark s ++ '\n' :: (indentLines (m + 2) (fun c => [c]) false true s ++
      afterBlock s n rest) by rw [hwritten]; rfl, hheader, Option.bind_eq_bind, Option.bind_some]
  dsimp only
  rw [hskip, Option.bind_eq_bind, Option.bind_some, htold, hbreaks, Option.bind_eq_bind,
    Option.bind_some]
  dsimp only
  rw [hindent, hlines, Option.bind_eq_bind, Option.bind_some]
  dsimp only
  rw [hfinish]

end LoginGate.Yaml
