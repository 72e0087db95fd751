import LoginGate.Proofs.Yaml.Folds
import LoginGate.Yaml.PlainScalar
import Mathlib.Data.List.Basic

/-!
# Plain scalars, as they are written

A plain scalar stands on one line.  Its words are read one by one with the spaces between them, up
to a colon with a gap behind it or to the end of the line (`plainFrom?_words`).
-/

namespace LoginGate.Yaml

open LoginGate.Text

/-! ## Neighbours -/

theorem anyNeighbours_cons_cons (p : Char → Char → Bool) (a b : Char) (s : List Char) :
    anyNeighbours p (a :: b :: s) = (p a b || anyNeighbours p (b :: s)) := rfl

section

variable {p : Char → Char → Bool} {s t : List Char} {a b : Char}

theorem anyNeighbours_of_append (h : anyNeighbours p (s ++ t) = false) :
    anyNeighbours p t = false := by
  induction s with
  | nil => exact h
  | cons c s ih =>
    refine ih ?_
    cases hrest : s ++ t with
    | nil => rfl
    | cons d rest =>
      rw [List.cons_append, hrest, anyNeighbours_cons_cons, Bool.or_eq_false_iff] at h
      exact h.2

theorem neighbours_of_append (h : anyNeighbours p (s ++ a :: b :: t) = false) : p a b = false := by
  have hrest := anyNeighbours_of_append h
  rw [anyNeighbours_cons_cons, Bool.or_eq_false_iff] at hrest
  exact hrest.1

/-- No such neighbours are met where two texts meet. -/
theorem neighbours_of_getLast? (h : anyNeighbours p (s ++ t) = false) (ha : s.getLast? = some a)
    (hb : t.head? = some b) : p a b = false := by
  obtain ⟨s, rfl⟩ := List.getLast?_eq_some_iff.1 ha
  obtain ⟨t, rfl⟩ := List.head?_eq_some_iff.1 hb
  rw [List.append_assoc] at h
  exact neighbours_of_append h

theorem anyNeighbours_of_cons (h : anyNeighbours p (a :: s) = false) : anyNeighbours p s = false :=
  @anyNeighbours_of_append p [a] s h

theorem anyNeighbours_cons (ha : ∀ b ∈ s.head?, p a b = false) (h : anyNeighbours p s = false) :
    anyNeighbours p (a :: s) = false := by
  cases s with
  | nil => rfl
  | cons b s => rw [anyNeighbours_cons_cons, ha b rfl, h, Bool.or_self]

theorem neighbours_of_cons (h : anyNeighbours p (a :: s) = false) (hb : s.head? = some b) :
    p a b = false := @neighbours_of_getLast? p [a] s a b h rfl hb

end

/-! ## Words -/

/-- Words with spaces between them, as a plain scalar may hold them. -/
structure Words (s : List Char) : Prop where
  spaces : ∀ c ∈ s, isGap c = true → c = ' '
  space_ne : s.getLast? ≠ some ' '
  colon_ne : s.getLast? ≠ some ':'
  colons : anyNeighbours (fun a b => a = ':' && isGap b) s = false
  comments : anyNeighbours (fun a b => isGap a && b = '#') s = false

theorem Words.append_right {s t : List Char} (h : Words (s ++ t)) (ht : t ≠ []) : Words t where
  spaces c hc := h.spaces c (List.mem_append_right s hc)
  space_ne hlast := h.space_ne (by rw [List.getLast?_append_of_ne_nil s ht, hlast])
  colon_ne hlast := h.colon_ne (by rw [List.getLast?_append_of_ne_nil s ht, hlast])
  colons := anyNeighbours_of_append h.colons
  comments := anyNeighbours_of_append h.comments

section

variable {word gaps rest : List Char} (h : Words (word ++ (gaps ++ rest)))
  (hgaps : ∀ c ∈ gaps, isGap c = true)

include h hgaps

theorem Words.gaps_eq : gaps = indentation gaps.length := by
  rw [indentation, List.eq_replicate_iff]
  refine ⟨rfl, fun c hc => h.spaces c ?_ (hgaps c hc)⟩
  exact List.mem_append_right word (List.mem_append_left rest hc)

theorem Words.ne_nil_of_gaps (hne : gaps ≠ []) : rest ≠ [] := by
  rintro rfl
  obtain ⟨c, hc⟩ := Option.ne_none_iff_exists'.1 (mt List.getLast?_eq_none_iff.1 hne)
  have hmem := List.mem_of_getLast? hc
  rw [List.append_nil] at h
  have hlast := (List.getLast?_append_of_ne_nil word hne).trans hc
  rw [h.spaces c (List.mem_append_right word hmem) (hgaps c hmem)] at hlast
  exact h.space_ne hlast

theorem Words.colon_ne_of_gaps (hne : gaps ≠ []) : word.getLast? ≠ some ':' := by
  intro hlast
  obtain ⟨c, gaps, rfl⟩ := List.exists_cons_of_ne_nil hne
  have hmet := neighbours_of_getLast? h.colons hlast rfl
  rw [hgaps c List.mem_cons_self] at hmet
  exact Bool.noConfusion hmet

theorem Words.comment_ne_of_gaps (hne : gaps ≠ []) : rest.head? ≠ some '#' := by
  intro hhead
  obtain ⟨c, hc⟩ := Option.ne_none_iff_exists'.1 (mt List.getLast?_eq_none_iff.1 hne)
  have hcomments := h.comments
  rw [← List.append_assoc] at hcomments
  have hmet := neighbours_of_getLast? hcomments
    ((List.getLast?_append_of_ne_nil word hne).trans hc) hhead
  rw [hgaps c (List.mem_of_getLast? hc)] at hmet
  exact Bool.noConfusion hmet

end

/-- A word is read up to what ends it. -/
theorem plainWord?_append {word rest : List Char} (hword : ∀ c ∈ word, isGap c = false)
    (hcolon : word.getLast? ≠ some ':') (hrest : plainWord? false rest = some []) :
    plainWord? false (word ++ rest) = some word := by
  induction word with
  | nil => exact hrest
  | cons c word ih =>
    have hstop : (c = ':' && startsWithGap (word ++ rest)) = false := by
      cases word with
      | nil =>
        have hc : c ≠ ':' := fun hc => hcolon (congrArg some hc)
        rw [decide_eq_false hc, Bool.false_and]
      | cons d word =>
        have hd := hword d (List.mem_cons_of_mem c List.mem_cons_self)
        rw [List.cons_append, startsWithGap, hd, Bool.and_false]
    have hlast : word.getLast? ≠ some ':' := by
      cases word with
      | nil => simp
      | cons d word => rwa [List.getLast?_cons_cons] at hcolon
    rw [List.cons_append, plainWord?, hword c List.mem_cons_self, if_neg Bool.false_ne_true,
      Bool.false_and, Bool.false_and, if_neg Bool.false_ne_true, hstop, Bool.false_and,
      Bool.or_false, if_neg Bool.false_ne_true, ih (fun d hd => hword d (List.mem_cons_of_mem c hd))
        hlast]
    rfl

theorem plainWord?_gap {c : Char} (h : isGap c = true) (rest : List Char) :
    plainWord? false (c :: rest) = some [] := if_pos h

theorem plainWord?_colon {rest : List Char} (h : startsWithGap rest = true) :
    plainWord? false (':' :: rest) = some [] := by
  rw [plainWord?, h]
  rfl

/-! ## Lines -/

/-- What becomes of the text behind a word. -/
def afterWord? (least fuel : Nat) (read : List Char) (c : Cursor) : Option PlainScalar :=
  if c.sees isGap then do
    let (gap, behind) ← c.takeGap? least
    if behind.column < least then some ⟨read, behind, gap.broken⟩
    else plainFrom? false least fuel read gap behind
  else some ⟨read, c, false⟩

variable {least fuel index line column : Nat} {read word rest : List Char} {gap : Gap}

theorem plainFrom?_word
    (hmark : (⟨word ++ rest, index, line, column⟩ : Cursor).atDocumentMark = false)
    (hcomment : (word ++ rest).head? ≠ some '#') (hword : ∀ c ∈ word, isGap c = false)
    (hne : word ≠ []) (hcolon : word.getLast? ≠ some ':')
    (hrest : plainWord? false rest = some []) :
    plainFrom? false least (fuel + 1) read gap ⟨word ++ rest, index, line, column⟩ =
      afterWord? least fuel (read ++ gap.text ++ word)
        ⟨rest, index + word.length, line, column + word.length⟩ := by
  have hstart : (⟨word ++ rest, index, line, column⟩ : Cursor).startsWith '#' = false :=
    beq_false_of_ne hcomment
  have hempty : word.isEmpty = false := List.isEmpty_eq_false_iff.2 hne
  rw [plainFrom?, hmark, hstart, Bool.or_false, if_neg Bool.false_ne_true]
  dsimp only
  rw [plainWord?_append hword hcolon hrest, Option.bind_eq_bind, Option.bind_some, hempty,
    if_neg Bool.false_ne_true, Cursor.skip_append]
  simp only [afterWord?, Bool.not_false, Bool.true_and, decide_eq_true_eq]

theorem atDocumentMark_of_pos (h : 0 < column) :
    (⟨rest, index, line, column⟩ : Cursor).atDocumentMark = false := by
  have hcolumn : (column == 0) = false := beq_false_of_ne (Nat.ne_of_gt h)
  simp only [Cursor.atDocumentMark, Cursor.atMarkLine, hcolumn, Bool.false_and, Bool.or_false]

theorem plainFrom?_words {tail : List Char} {behind : Nat → Nat → Nat → Cursor} {broken : Bool}
    (htail : plainWord? false tail = some [])
    (hbehind : ∀ fuel read index line column,
      afterWord? least fuel read ⟨tail, index, line, column⟩ =
        some ⟨read, behind index line column, broken⟩) (s : List Char) :
    ∀ word fuel read gap index line column, (∀ c ∈ word, isGap c = false) → Words (word ++ s) →
      (∀ c ∈ (word ++ s).head?, isGap c = false ∧ c ≠ '#') → word ++ s ≠ [] →
      (⟨word ++ s ++ tail, index, line, column⟩ : Cursor).atDocumentMark = false →
      least ≤ column + 1 → (word ++ s).length < fuel →
      plainFrom? false least fuel read gap ⟨word ++ s ++ tail, index, line, column⟩ =
        some ⟨read ++ gap.text ++ (word ++ s),
          behind (index + (word ++ s).length) line (column + (word ++ s).length), broken⟩ := by
  -- `word` is what has been seen of a word when the rest of the text begins
  induction s using run_induction isGap with
  | nil =>
    intro word fuel read gap index line column hword hwords hhead hne hmark hleast hfuel
    obtain ⟨fuel, rfl⟩ := Nat.exists_eq_succ_of_ne_zero (Nat.ne_of_gt (Nat.zero_lt_of_lt hfuel))
    rw [List.append_nil] at *
    have hcomment : (word ++ tail).head? ≠ some '#' := by
      rw [List.head?_append_of_ne_nil _ hne]
      exact fun h => (hhead _ h).2 rfl
    rw [plainFrom?_word hmark hcomment hword hne hwords.colon_ne htail, hbehind]
  | run gaps rest hne' hgaps hends ih =>
    intro word fuel read gap index line column hword hwords hhead hne hmark hleast hfuel
    obtain ⟨fuel, rfl⟩ := Nat.exists_eq_succ_of_ne_zero (Nat.ne_of_gt (Nat.zero_lt_of_lt hfuel))
    -- The gap is a run of spaces, with a word on either side.
    have hspaces := hwords.gaps_eq hgaps
    have hrest := hwords.ne_nil_of_gaps hgaps hne'
    have hcolon := hwords.colon_ne_of_gaps hgaps hne'
    have hnonempty : word ≠ [] := by
      rintro rfl
      obtain ⟨c, gaps, rfl⟩ := List.exists_cons_of_ne_nil hne'
      have hc := hgaps c List.mem_cons_self
      rw [(hhead c rfl).1] at hc
      exact Bool.noConfusion hc
    have hlater : Words rest := by
      rw [← List.append_assoc] at hwords
      exact hwords.append_right hrest
    have hhead' : ∀ c ∈ ([] ++ rest).head?, isGap c = false ∧ c ≠ '#' := by
      refine fun c hc => ⟨hends c hc, ?_⟩
      rintro rfl
      exact hwords.comment_ne_of_gaps hgaps hne' hc
    have hcomment : (word ++ (gaps ++ rest ++ tail)).head? ≠ some '#' := by
      rw [List.head?_append_of_ne_nil _ hnonempty]
      rw [List.head?_append_of_ne_nil _ hnonempty] at hhead
      exact fun h => (hhead _ h).2 rfl
    have hstop : plainWord? false (gaps ++ rest ++ tail) = some [] := by
      obtain ⟨c, gaps, rfl⟩ := List.exists_cons_of_ne_nil hne'
      exact plainWord?_gap (hgaps c List.mem_cons_self) _
    have hnoGap : NoGap (rest ++ tail) := fun c hc => by
      rw [List.head?_append_of_ne_nil _ hrest] at hc
      exact hends c hc
    have hpos : 0 < word.length := List.length_pos_of_ne_nil hnonempty
    rw [List.append_assoc word] at hmark ⊢
    rw [plainFrom?_word hmark hcomment hword hnonempty hcolon hstop, afterWord?]
    have hsees : (⟨gaps ++ rest ++ tail, index + word.length, line, column + word.length⟩
        : Cursor).sees isGap = true := by
      obtain ⟨c, gaps, rfl⟩ := List.exists_cons_of_ne_nil hne'
      exact hgaps c List.mem_cons_self
    rw [hsees, if_pos rfl, List.append_assoc gaps, hspaces, Cursor.takeGap?_spaces hnoGap,
      Option.bind_eq_bind, Option.bind_some]
    dsimp only
    rw [if_neg (by omega)]
    simp only [List.length_append] at hfuel
    refine (ih [] fuel _ _ _ _ _ (fun c hc => absurd hc List.not_mem_nil) hlater hhead' hrest
      (atDocumentMark_of_pos (by omega)) (by omega) (by rw [List.nil_append]; omega)).trans ?_
    have hlength : (indentation gaps.length).length = gaps.length := List.length_replicate
    simp only [List.nil_append, List.length_append, hlength, Gap.text, List.append_assoc,
      Nat.add_assoc, Bool.not_false, if_true]
  | other c rest hc ih =>
    intro word fuel read gap index line column hword hwords hhead hne hmark hleast hfuel
    have hassoc : word ++ c :: rest = word ++ [c] ++ rest := by
      rw [List.append_assoc, List.singleton_append]
    rw [hassoc] at hwords hhead hne hmark hfuel ⊢
    refine ih (word ++ [c]) fuel read gap index line column (fun d hd => ?_) hwords hhead hne hmark
      hleast hfuel
    obtain hd | hd := List.mem_append.1 hd
    · exact hword d hd
    · rw [List.mem_singleton.1 hd]
      exact hc

/-! ## Whole scalars -/

namespace Cursor

variable {s : List Char}

theorem plainScalar?_line (hwords : Words s) (hne : s ≠ [])
    (hhead : ∀ c ∈ s.head?, isGap c = false ∧ c ≠ '#') {n : Nat}
    (hmark : (⟨s ++ '\n' :: indentation n ++ rest, index, line, column⟩ : Cursor).atDocumentMark
      = false) (hrest : NoGap rest) (hn : n < least) (hleast : least ≤ column + 1) :
    (⟨s ++ '\n' :: indentation n ++ rest, index, line, column⟩ : Cursor).plainScalar? false least =
      some ⟨s, ⟨rest, index + s.length + 1 + n, line + 1, n⟩, true⟩ := by
  have hend (fuel : Nat) (read : List Char) (index line column : Nat) :
      afterWord? least fuel read ⟨'\n' :: indentation n ++ rest, index, line, column⟩ =
        some ⟨read, ⟨rest, index + 1 + n, line + 1, n⟩, true⟩ := by
    rw [afterWord?, Cursor.takeGap?_newline hrest, Option.bind_eq_bind, Option.bind_some]
    exact (if_pos rfl).trans (if_pos hn)
  rw [List.append_assoc] at hmark ⊢
  exact plainFrom?_words (plainWord?_gap rfl _) hend s [] _ [] {} index line column
    (fun c hc => absurd hc List.not_mem_nil) hwords hhead hne hmark hleast
    (by simp only [List.nil_append, List.length_append]; omega)

theorem plainScalar?_key (hwords : Words s) (hne : s ≠ [])
    (hhead : ∀ c ∈ s.head?, isGap c = false ∧ c ≠ '#')
    (hmark : (⟨s ++ ':' :: rest, index, line, column⟩ : Cursor).atDocumentMark = false)
    (hrest : startsWithGap rest = true) (hleast : least ≤ column + 1) :
    (⟨s ++ ':' :: rest, index, line, column⟩ : Cursor).plainScalar? false least =
      some ⟨s, ⟨':' :: rest, index + s.length, line, column + s.length⟩, false⟩ :=
  plainFrom?_words (plainWord?_colon hrest) (fun _ _ _ _ _ => rfl) s [] _ [] {} index line column
    (fun c hc => absurd hc List.not_mem_nil) hwords hhead hne hmark hleast
    (by simp only [List.nil_append, List.length_append]; omega)

end Cursor

end LoginGate.Yaml
