import LoginGate.Proofs.Yaml.Gaps
import LoginGate.Yaml.Folding

/-!
# Gaps inside scalars, as they are written

Inside a scalar the writer puts runs of spaces, which stay, and inside single quotes also runs of
line breaks with an indentation behind them, of which the breaks stay.
-/

namespace LoginGate.Yaml

open LoginGate.Text

/-- No gap comes first. -/
def NoGap (rest : List Char) : Prop := EndsRun isGap rest

theorem StartsToken.noGap {rest : List Char} (h : StartsToken rest) : NoGap rest := fun c hc =>
  (h c hc).1

namespace Gap

variable {rest : List Char} {indent fuel index line column : Nat} {g : Gap}

theorem extend?_stop (h : NoGap rest) (indent fuel : Nat) (g : Gap) (index line column : Nat) :
    extend? indent fuel g ⟨rest, index, line, column⟩ = some (g, ⟨rest, index, line, column⟩) := by
  cases fuel with
  | zero => rfl
  | succ fuel =>
    cases rest with
    | nil => rfl
    | cons c rest =>
      have hc := h c rfl
      rw [extend?]
      simp only [Cursor.head?, List.head?_cons, isWhite_of_not_isGap hc, isBreak_of_not_isGap hc,
        Bool.false_eq_true, if_false]

theorem extend?_space (indent fuel : Nat) (g : Gap) (rest : List Char) (index line column : Nat) :
    extend? indent (fuel + 1) g ⟨' ' :: rest, index, line, column⟩ =
      extend? indent fuel (g.addWhite ' ') ⟨rest, index + 1, line, column + 1⟩ := by
  have htab : (g.broken && ' ' = '\t' && column < indent) = false := by
    rw [decide_eq_false (by decide), Bool.and_false, Bool.false_and]
  rw [extend?]
  simp only [Cursor.head?, List.head?_cons, htab, Bool.false_eq_true, if_false]
  rfl

theorem extend?_spaces (h : NoGap rest) (indent n fuel index line column : Nat)
    (white : List Char) :
    extend? indent (fuel + n) { white := white } ⟨indentation n ++ rest, index, line, column⟩ =
      some ({ white := white ++ indentation n }, ⟨rest, index + n, line, column + n⟩) := by
  induction n generalizing white index column with
  | zero => rw [indentation, List.replicate_zero, List.append_nil]; exact extend?_stop h ..
  | succ n ih =>
    rw [indentation, List.replicate_succ, List.cons_append, ← Nat.add_assoc, extend?_space]
    refine (ih (index + 1) (column + 1) (white ++ [' '])).trans ?_
    rw [indentation, List.append_assoc, List.singleton_append, Nat.add_right_comm index,
      Nat.add_right_comm column]
    rfl

theorem extend?_indentation (h : NoGap rest) (hbroken : g.broken = true)
    (indent n fuel index line column : Nat) :
    extend? indent (fuel + n) g ⟨indentation n ++ rest, index, line, column⟩ =
      some (g, ⟨rest, index + n, line, column + n⟩) := by
  induction n generalizing index column with
  | zero => exact extend?_stop h ..
  | succ n ih =>
    have hwhite : g.addWhite ' ' = g := if_pos hbroken
    rw [indentation, List.replicate_succ, List.cons_append, ← Nat.add_assoc, extend?_space, hwhite]
    refine (ih (index + 1) (column + 1)).trans ?_
    rw [Nat.add_right_comm index, Nat.add_right_comm column]
    rfl

/-- A break between lines of a text, other than a line feed. -/
def isSeparator (c : Char) : Bool := c.toNat = 0x2028 || c.toNat = 0x2029

theorem isBreak_of_isSeparator {c : Char} (h : isSeparator c = true) : isBreak c = true := by
  rw [isSeparator, Bool.or_eq_true, decide_eq_true_eq, decide_eq_true_eq] at h
  rw [isBreak]
  obtain h | h := h <;> rw [h] <;> simp

theorem takeBreak_separator {c : Char} (h : isSeparator c = true) (rest : List Char)
    (index line column : Nat) :
    (⟨c :: rest, index, line, column⟩ : Cursor).takeBreak =
      ([c], ⟨rest, index + 1, line + 1, 0⟩) := by
  rw [isSeparator, Bool.or_eq_true, decide_eq_true_eq, decide_eq_true_eq] at h
  have hreturn : c ≠ '\r' := by
    rintro rfl
    revert h
    decide
  rw [Cursor.takeBreak]
  split
  · rename_i hc
    exact absurd (List.cons.inj hc).1 hreturn
  · rename_i hc
    obtain ⟨rfl, rfl⟩ := List.cons.inj hc
    exact if_pos h
  · rename_i hc
    cases hc

theorem extend?_separator {c : Char} (h : isSeparator c = true) (indent fuel : Nat) (g : Gap)
    (rest : List Char) (index line column : Nat) :
    extend? indent (fuel + 1) g ⟨c :: rest, index, line, column⟩ =
      extend? indent fuel (g.addBreak [c]) ⟨rest, index + 1, line + 1, 0⟩ := by
  have hwhite : isWhite c = false := by
    rw [isWhite, Bool.or_eq_false_iff, decide_eq_false_iff_not, decide_eq_false_iff_not]
    constructor <;>
    · rintro rfl
      exact Bool.noConfusion h
  rw [extend?]
  simp only [Cursor.head?, List.head?_cons, hwhite, isBreak_of_isSeparator h, Bool.false_eq_true,
    if_false, if_true, takeBreak_separator h]

/-- Breaks are kept, spaces behind them are not. -/
theorem extend?_separators {breaks : List Char} (h : ∀ c ∈ breaks, isSeparator c = true)
    (hrest : NoGap rest) (hbroken : g.broken = true) (indent n fuel index line column : Nat) :
    ∃ index' line' column', line ≤ line' ∧ (column' = n ∨ column' = column + n) ∧
      extend? indent (fuel + n + breaks.length) g
          ⟨breaks ++ indentation n ++ rest, index, line, column⟩ =
        some ({ g with laterBreaks := g.laterBreaks ++ breaks }, ⟨rest, index', line', column'⟩) := by
  induction breaks generalizing g index line column with
  | nil =>
    refine ⟨index + n, line, column + n, Nat.le_refl _, Or.inr rfl, ?_⟩
    rw [List.append_nil]
    exact extend?_indentation hrest hbroken indent n fuel index line column
  | cons c breaks ih =>
    have hadd : g.addBreak [c] = { g with laterBreaks := g.laterBreaks ++ [c] } := if_pos hbroken
    obtain ⟨index', line', column', hline, hcolumn, hbreaks⟩ :=
      @ih { g with laterBreaks := g.laterBreaks ++ [c] }
        (fun d hd => h d (List.mem_cons_of_mem c hd)) hbroken (index + 1) (line + 1) 0
    refine ⟨index', line', column', by omega, Or.inl (by omega), ?_⟩
    rw [List.length_cons, List.cons_append, List.cons_append, ← Nat.add_assoc,
      extend?_separator (h c List.mem_cons_self), hadd, hbreaks, List.append_assoc,
      List.singleton_append]

end Gap

/-! ## Whole gaps -/

namespace Cursor

theorem takeGap?_spaces {rest : List Char} (h : NoGap rest) (indent n index line column : Nat) :
    (⟨indentation n ++ rest, index, line, column⟩ : Cursor).takeGap? indent =
      some ({ white := indentation n }, ⟨rest, index + n, line, column + n⟩) := by
  rw [takeGap?]
  have hfuel : (indentation n ++ rest).length + 1 = rest.length + 1 + n := by
    rw [List.length_append, indentation, List.length_replicate]
    omega
  dsimp only
  rw [hfuel]
  exact Gap.extend?_spaces h indent n _ index line column []

theorem takeGap?_newline {rest : List Char} (h : NoGap rest) (indent n index line column : Nat) :
    (⟨'\n' :: indentation n ++ rest, index, line, column⟩ : Cursor).takeGap? indent =
      some ({ broken := true, firstBreak := ['\n'] }, ⟨rest, index + 1 + n, line + 1, n⟩) := by
  rw [takeGap?]
  have hfuel : ('\n' :: indentation n ++ rest).length + 1 = rest.length + 1 + n + 1 := by
    rw [List.cons_append, List.length_cons, List.length_append, indentation, List.length_replicate]
    omega
  dsimp only
  rw [hfuel]
  refine (Gap.extend?_indentation (g := { broken := true, firstBreak := ['\n'] }) h rfl indent n _
    (index + 1) (line + 1) 0).trans ?_
  rw [Nat.zero_add]

theorem takeGap?_separators {breaks rest : List Char}
    (h : ∀ c ∈ breaks, Gap.isSeparator c = true) (hbreaks : breaks ≠ []) (hrest : NoGap rest)
    (indent n index line column : Nat) :
    ∃ gap index' line', gap.text = breaks ∧ line ≤ line' ∧
      (⟨breaks ++ indentation n ++ rest, index, line, column⟩ : Cursor).takeGap? indent =
        some (gap, ⟨rest, index', line', n⟩) := by
  obtain ⟨c, breaks, rfl⟩ := List.exists_cons_of_ne_nil hbreaks
  have hc := h c List.mem_cons_self
  obtain ⟨index', line', column', hline, hcolumn, hgap⟩ :=
    Gap.extend?_separators (g := { broken := true, firstBreak := [c] })
      (fun d hd => h d (List.mem_cons_of_mem c hd)) hrest rfl indent n (rest.length + 1) (index + 1)
      (line + 1) 0
  have hlength : (c :: breaks ++ indentation n ++ rest).length + 1 =
      rest.length + 1 + n + breaks.length + 1 := by
    simp only [List.cons_append, List.length_cons, List.length_append, indentation,
      List.length_replicate]
    omega
  have hfeed : [c] ≠ ['\n'] := by
    intro hfeed
    rw [List.singleton_inj.1 hfeed] at hc
    exact Bool.noConfusion hc
  refine ⟨{ broken := true, firstBreak := [c], laterBreaks := breaks }, index', line', ?_,
    by omega, ?_⟩
  · rw [Gap.text]
    exact if_neg hfeed
  · obtain rfl : column' = n := by omega
    rw [takeGap?]
    dsimp only
    rw [hlength, List.cons_append, List.cons_append, Gap.extend?_separator hc]
    exact hgap

end Cursor

end LoginGate.Yaml
