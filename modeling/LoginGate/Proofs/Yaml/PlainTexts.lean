import LoginGate.Proofs.Yaml.PlainScalars
import LoginGate.Proofs.Yaml.Steps

/-!
# Texts without quotes

What `fitsPlain` asks of a text is just what the scanner needs to take it for one plain scalar.
-/

namespace LoginGate.Yaml

open LoginGate.Text

theorem isGap_cases {c : Char} (hplain : isPlainCharacter c = true) (hgap : isGap c = true) :
    c = ' ' ∨ isBreak c = true := by
  rw [isGap, isWhite] at hgap
  simp only [Bool.or_eq_true, decide_eq_true_eq] at hgap
  obtain (rfl | rfl) | hbreak := hgap
  · exact Or.inl rfl
  · exact Bool.noConfusion hplain
  · exact Or.inr hbreak

theorem anyNeighbours_eq_false {p : Char → Char → Bool} {s : List Char}
    (h : ∀ a ∈ s, ∀ b ∈ s, p a b = false) : anyNeighbours p s = false := by
  induction s with
  | nil => rfl
  | cons a s ih =>
    cases s with
    | nil => rfl
    | cons b s =>
      rw [anyNeighbours_cons_cons, h a (by simp) b (by simp), Bool.false_or]
      exact ih fun c hc d hd => h c (List.mem_cons_of_mem a hc) d (List.mem_cons_of_mem a hd)

/-- What `fitsPlain` asks. -/
theorem fitsPlain_iff (s : List Char) : fitsPlain s = true ↔
    (∀ c ∈ s, isPlainCharacter c = true) ∧ (∀ c ∈ s, isBreak c = false) ∧
    hasIndicator s = false ∧ s.head? ≠ some ' ' ∧ s.getLast? ≠ some ' ' := by
  have hends : atEnds (· == ' ') s = false ↔ s.head? ≠ some ' ' ∧ s.getLast? ≠ some ' ' := by
    rw [atEnds, Bool.or_eq_false_iff]
    refine and_congr ?_ ?_
    · cases s.head? <;> simp
    · cases s.getLast? <;> simp
  have hescapes (hbreaks : ∀ c ∈ s, isBreak c = false) :
      fitsSingleQuotes s = s.all isPlainCharacter := by
    have hspaces : anyNeighbours (fun a b => a = ' ' && isBreak b) s = false :=
      anyNeighbours_eq_false fun a _ b hb => by rw [hbreaks b hb, Bool.and_false]
    have hfresh : anyNeighbours (fun a b => isBreak a && b = ' ') s = false :=
      anyNeighbours_eq_false fun a ha b _ => by rw [hbreaks a ha, Bool.false_and]
    rw [fitsSingleQuotes, needsEscapes, hspaces, hfresh, Bool.or_false, Bool.not_not, Bool.not_false,
      Bool.and_true]
  rw [fitsPlain, Bool.and_eq_true, Bool.and_eq_true, Bool.and_eq_true, Bool.not_eq_true',
    Bool.not_eq_true', Bool.not_eq_true', hends]
  constructor
  · rintro ⟨⟨⟨hquotes, hbreaks⟩, hindicator⟩, hspaces⟩
    rw [List.any_eq_false] at hbreaks
    have hbreaks' : ∀ c ∈ s, isBreak c = false := fun c hc => by simpa using hbreaks c hc
    rw [hescapes hbreaks', List.all_eq_true] at hquotes
    exact ⟨hquotes, hbreaks', hindicator, hspaces⟩
  · rintro ⟨hplain, hbreaks, hindicator, hspaces⟩
    refine ⟨⟨⟨?_, ?_⟩, hindicator⟩, hspaces⟩
    · rw [hescapes hbreaks, List.all_eq_true]
      exact hplain
    · rw [List.any_eq_false]
      exact fun c hc => by rw [hbreaks c hc]; exact Bool.false_ne_true

/-- What `hasIndicator` looks for. -/
theorem hasIndicator_eq_false_iff (s : List Char) : hasIndicator s = false ↔
    dropPrefix? ['-', '-', '-'] s = none ∧ dropPrefix? ['.', '.', '.'] s = none ∧
    s.head?.any isLeadingIndicator = false ∧
    ((s.head? = some '?' ∨ s.head? = some '-') → gapFollows s = false) ∧ s.getLast? ≠ some ':' ∧
    anyNeighbours (fun a b => a = ':' && isGap b) s = false ∧
    anyNeighbours (fun a b => isGap a && b = '#') s = false := by
  have hdashes : "---".toList = ['-', '-', '-'] := rfl
  have hdots : "...".toList = ['.', '.', '.'] := rfl
  rw [hasIndicator, hdashes, hdots]
  simp only [Bool.or_eq_false_iff, Option.isSome_eq_false_iff, Option.isNone_iff_eq_none,
    decide_eq_false_iff_not, and_assoc]
  refine and_congr_right fun _ => and_congr_right fun _ => and_congr_right fun _ =>
    and_congr_left fun _ => ?_
  cases gapFollows s <;> simp

/-- A text that is one plain scalar. -/
structure IsPlain (s : List Char) : Prop where
  words : Words s
  ne_nil : s ≠ []
  mark_ne (x : Char) : x = '-' ∨ x = '.' → dropPrefix? [x, x, x] s = none
  head : ∀ c ∈ s.head?, isGap c = false ∧ isLeadingIndicator c = false
  second : s.head? = some '?' ∨ s.head? = some '-' → gapFollows s = false
  noBreak : ∀ c ∈ s, isBreak c = false

theorem isPlain_of_fitsPlain {s : List Char} (h : fitsPlain s = true) (hne : s ≠ []) :
    IsPlain s := by
  obtain ⟨hplain, hbreaks, hindicator, hfirst, hlast⟩ := (fitsPlain_iff s).1 h
  obtain ⟨hdashes, hdots, hleading, hsecond, hcolon, hcolons, hcomments⟩ :=
    (hasIndicator_eq_false_iff s).1 hindicator
  have hspaces : ∀ c ∈ s, isGap c = true → c = ' ' := fun c hc hgap => by
    obtain hspace | hbreak := isGap_cases (hplain c hc) hgap
    · exact hspace
    · rw [hbreaks c hc] at hbreak
      exact Bool.noConfusion hbreak
  refine ⟨⟨hspaces, hlast, hcolon, hcolons, hcomments⟩, hne, ?_, fun c hc => ⟨?_, ?_⟩, hsecond,
    hbreaks⟩
  · rintro x (rfl | rfl)
    · exact hdashes
    · exact hdots
  · cases hgap : isGap c with
    | false => rfl
    | true =>
      rw [hspaces c (List.mem_of_mem_head? hc) hgap] at hc
      exact absurd hc hfirst
  · rw [Option.mem_def.1 hc] at hleading
    exact hleading

namespace Scan

variable {s rest : List Char} {index line column : Nat}

theorem atMarkLine_plain (h : IsPlain s) {x : Char} (hx : x = '-' ∨ x = '.')
    (hrest : rest.head? ≠ some x) :
    (⟨s ++ rest, index, line, column⟩ : Cursor).atMarkLine x = false := by
  have hmark := h.mark_ne x hx
  have htake : ((s ++ rest).take 3 == [x, x, x]) = false := by
    refine beq_false_of_ne fun htake => ?_
    match s, h.ne_nil with
    | [a], _ =>
      cases rest with
      | nil => cases htake
      | cons b rest =>
        have := (List.cons.inj (List.cons.inj htake).2).1
        exact hrest (congrArg some this)
    | [a, b], _ =>
      cases rest with
      | nil => cases htake
      | cons c rest =>
        have := (List.cons.inj (List.cons.inj (List.cons.inj htake).2).2).1
        exact hrest (congrArg some this)
    | a :: b :: c :: s, _ =>
      obtain ⟨rfl, htake⟩ := List.cons.inj htake
      obtain ⟨rfl, htake⟩ := List.cons.inj htake
      obtain ⟨rfl, -⟩ := List.cons.inj htake
      cases hmark.symm.trans (dropPrefix?_append [c, c, c] s)
  rw [Cursor.atMarkLine]
  dsimp only
  rw [htake, Bool.and_false, Bool.false_and]

theorem ne_of_isLeadingIndicator {x : Char} (h : isLeadingIndicator x = false) :
    x ≠ '#' ∧ x ≠ ',' ∧ x ≠ '[' ∧ x ≠ ']' ∧ x ≠ '{' ∧ x ≠ '}' ∧ x ≠ '&' ∧ x ≠ '*' ∧ x ≠ '!' ∧
      x ≠ '|' ∧ x ≠ '>' ∧ x ≠ '\'' ∧ x ≠ '"' ∧ x ≠ '%' ∧ x ≠ '@' ∧ x ≠ '`' := by
  simpa [isLeadingIndicator] using h

theorem isIndicator_of_not_isLeadingIndicator {x : Char} (h : isLeadingIndicator x = false)
    (hx : ¬ (x = '-' ∨ x = '?' ∨ x = ':')) : isIndicator x = false := by
  have hne := ne_of_isLeadingIndicator h
  rw [not_or, not_or] at hx
  simp [isIndicator, hne, hx]

/-- A mark that starts a plain scalar has no gap behind it. -/
theorem gapAt_plain {x : Char} (h : IsPlain (x :: s)) (hx : x = '-' ∨ x = '?' ∨ x = ':') :
    (⟨x :: s ++ rest, index, line, column⟩ : Cursor).gapAt 1 = false := by
  have hsecond : x = ':' ∨ gapFollows (x :: s) = false := by
    obtain rfl | rfl | rfl := hx
    · exact Or.inr (h.second (Or.inr rfl))
    · exact Or.inr (h.second (Or.inl rfl))
    · exact Or.inl rfl
  cases s with
  | nil =>
    obtain rfl | hgap := hsecond
    · exact absurd rfl h.words.colon_ne
    · cases hgap
  | cons c s =>
    obtain rfl | hgap := hsecond
    · have := neighbours_of_cons h.words.colons rfl
      rwa [decide_eq_true rfl, Bool.true_and] at this
    · exact hgap

theorem startsPlain_plain {x : Char} (h : IsPlain (x :: s)) (tokens : List Token)
    (indents : List Nat) (keyAllowed : Bool) (key : Option PendingKey) (settled : Nat) :
    (outside ⟨x :: s ++ rest, index, line, column⟩ tokens indents keyAllowed key
      settled).startsPlain x = true := by
  obtain ⟨hgap, hleading⟩ := h.head x rfl
  by_cases hx : x = '-' ∨ x = '?' ∨ x = ':'
  · have hnext := @gapAt_plain s rest index line column x h hx
    rw [startsPlain]
    obtain rfl | hx' := hx
    · have hwhite : ((⟨'-' :: s ++ rest, index, line, column⟩ : Cursor).skip 1).sees isWhite
          = false := by
        cases s with
        | nil => exact absurd (h.second (Or.inr rfl)) (by decide)
        | cons c s => exact isWhite_of_not_isGap hnext
      have hwhite' : ((outside ⟨'-' :: s ++ rest, index, line, column⟩ tokens indents keyAllowed key
          settled).cursor.skip 1).sees isWhite = false := hwhite
      rw [hwhite']
      simp
    · have hnext' : (outside ⟨x :: s ++ rest, index, line, column⟩ tokens indents keyAllowed key
          settled).cursor.gapAt 1 = false := hnext
      have hflow : (outside ⟨x :: s ++ rest, index, line, column⟩ tokens indents keyAllowed key
          settled).inFlow = false := rfl
      rw [hnext', hflow]
      obtain rfl | rfl := hx' <;> simp
  · rw [startsPlain, hgap, isIndicator_of_not_isLeadingIndicator hleading hx, Bool.or_false,
      Bool.not_false, Bool.true_or, Bool.true_or]

theorem tokenAt?_plain {x : Char} (h : IsPlain (x :: s)) (hdash : rest.head? ≠ some '-')
    (hdot : rest.head? ≠ some '.') (tokens : List Token) (indents : List Nat) (keyAllowed : Bool)
    (key : Option PendingKey) (settled : Nat) :
    (outside ⟨x :: s ++ rest, index, line, column⟩ tokens indents keyAllowed key
        settled).tokenAt? x =
      (outside ⟨x :: s ++ rest, index, line, column⟩ tokens indents keyAllowed key
        settled).plainScalar? := by
  have hdashes := @atMarkLine_plain (x :: s) rest index line column h '-' (Or.inl rfl) hdash
  have hdots := @atMarkLine_plain (x :: s) rest index line column h '.' (Or.inr rfl) hdot
  have hstarts := @startsPlain_plain s rest index line column x h tokens indents keyAllowed key
    settled
  have hne := ne_of_isLeadingIndicator (h.head x rfl).2
  have hmark (y : Char) (hy : y = '-' ∨ y = '?' ∨ y = ':') :
      (x = y && (⟨x :: s ++ rest, index, line, column⟩ : Cursor).gapAt 1) = false := by
    by_cases hxy : x = y
    · rw [gapAt_plain h (hxy ▸ hy), Bool.and_false]
    · rw [decide_eq_false hxy, Bool.false_and]
  have hflow : (outside ⟨x :: s ++ rest, index, line, column⟩ tokens indents keyAllowed key
    settled).inFlow = false := rfl
  have hcursor : (outside ⟨x :: s ++ rest, index, line, column⟩ tokens indents keyAllowed key
    settled).cursor = ⟨x :: s ++ rest, index, line, column⟩ := rfl
  unfold tokenAt?
  simp only [hcursor, hflow, hdashes, hdots, hmark _ (Or.inl rfl), hmark _ (Or.inr (Or.inl rfl)),
    hmark _ (Or.inr (Or.inr rfl)), hstarts, hne, decide_false, Bool.and_false, Bool.false_and,
    Bool.false_or, Bool.false_eq_true, if_false, if_true]

end Scan

end LoginGate.Yaml
