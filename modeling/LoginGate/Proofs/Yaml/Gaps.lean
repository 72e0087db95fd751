import LoginGate.Proofs.Text.Runs
import LoginGate.Yaml.Tokens
import LoginGate.Yaml.Writer

/-!
# What stands between two tokens

The writer puts nothing, one space, or a line break and an indentation between two tokens.  The
scanner passes over them, and tells them apart by the column that it comes to.
-/

namespace LoginGate.Yaml

open LoginGate.Text

/-- A token starts here, or the text ends. -/
def StartsToken (rest : List Char) : Prop :=
  ∀ c ∈ rest.head?, isGap c = false ∧ c ≠ '#' ∧ isByteOrderMark c = false

theorem startsToken_nil : StartsToken [] := by
  intro c hc
  cases hc

theorem startsToken_cons {c : Char} (h : isGap c = false ∧ c ≠ '#' ∧ isByteOrderMark c = false)
    (rest : List Char) : StartsToken (c :: rest) := by
  intro d hd
  rwa [← Option.some.inj hd]

theorem isBreak_of_not_isGap {c : Char} (h : isGap c = false) : isBreak c = false := by
  rw [isGap, Bool.or_eq_false_iff] at h
  exact h.2

theorem isWhite_of_not_isGap {c : Char} (h : isGap c = false) : isWhite c = false := by
  rw [isGap, Bool.or_eq_false_iff] at h
  exact h.1

/-! ## Moves of a cursor -/

namespace Cursor

variable {rest : List Char} {index line column : Nat}

theorem skip_append (s rest : List Char) (index line column : Nat) :
    (⟨s ++ rest, index, line, column⟩ : Cursor).skip s.length =
      ⟨rest, index + s.length, line, column + s.length⟩ := by
  rw [skip, List.drop_left]

theorem skipWhile_run {p : Char → Bool} {run rest : List Char} (hrun : ∀ c ∈ run, p c = true)
    (hrest : EndsRun p rest) (index line column : Nat) :
    (⟨run ++ rest, index, line, column⟩ : Cursor).skipWhile p =
      ⟨rest, index + run.length, line, column + run.length⟩ := by
  rw [skipWhile, span]
  dsimp only
  rw [takeWhile_run hrun hrest, skip_append]

theorem skipWhile_none {p : Char → Bool} (hrest : EndsRun p rest) (index line column : Nat) :
    (⟨rest, index, line, column⟩ : Cursor).skipWhile p = ⟨rest, index, line, column⟩ :=
  skipWhile_run (fun _ h => absurd h List.not_mem_nil) hrest index line column

end Cursor

/-! ## Between tokens -/

namespace Scan

theorem skipGaps_eq {fuel : Nat} {keyAllowed : Bool} {c : Cursor}
    (hmark : c.sees isByteOrderMark = false) :
    skipGaps false (fuel + 1) keyAllowed c =
      let behind := (c.skipWhile fun x => x = ' ' || (!keyAllowed && x = '\t')).skipComment
      if behind.sees isBreak then skipGaps false fuel true behind.takeBreak.2
      else (keyAllowed, behind) := by
  rw [skipGaps, hmark, Bool.and_false, if_neg Bool.false_ne_true, Bool.false_or, Bool.not_false,
    Bool.or_true]

theorem skipGaps_spaces {rest : List Char} (h : StartsToken rest) (fuel n : Nat)
    (keyAllowed : Bool) (index line column : Nat) :
    skipGaps false (fuel + 1) keyAllowed ⟨indentation n ++ rest, index, line, column⟩ =
      (keyAllowed, ⟨rest, index + n, line, column + n⟩) := by
  have hspaces : ∀ c ∈ indentation n, (c = ' ' || (!keyAllowed && c = '\t')) = true := fun c hc => by
    rw [List.eq_of_mem_replicate hc, decide_eq_true rfl, Bool.true_or]
  have hends : EndsRun (fun x => x = ' ' || (!keyAllowed && x = '\t')) rest := fun c hc => by
    have hwhite := isWhite_of_not_isGap (h c hc).1
    rw [isWhite, Bool.or_eq_false_iff] at hwhite
    show (decide (c = ' ') || (!keyAllowed && decide (c = '\t'))) = false
    rw [hwhite.1, hwhite.2, Bool.and_false, Bool.or_false]
  have hmark : (⟨indentation n ++ rest, index, line, column⟩ : Cursor).sees isByteOrderMark
      = false := by
    cases n with
    | zero =>
      cases rest with
      | nil => rfl
      | cons c rest => exact (h c rfl).2.2
    | succ n => rfl
  rw [skipGaps_eq hmark, Cursor.skipWhile_run hspaces hends, indentation, List.length_replicate]
  cases rest with
  | nil => rfl
  | cons c rest =>
    have hcomment : (⟨c :: rest, index + n, line, column + n⟩ : Cursor).skipComment =
        ⟨c :: rest, index + n, line, column + n⟩ :=
      if_neg fun hc => (h c rfl).2.1 (Option.some.inj (beq_iff_eq.1 hc))
    rw [hcomment]
    exact if_neg (by
      rw [Cursor.sees, List.head?_cons, Option.any_some, isBreak_of_not_isGap (h c rfl).1]
      exact Bool.false_ne_true)

theorem skipGaps_start {rest : List Char} (h : StartsToken rest) (fuel : Nat)
    (keyAllowed : Bool) (index line column : Nat) :
    skipGaps false (fuel + 1) keyAllowed ⟨rest, index, line, column⟩ =
      (keyAllowed, ⟨rest, index, line, column⟩) :=
  skipGaps_spaces h fuel 0 keyAllowed index line column

theorem skipGaps_newline {rest : List Char} (h : StartsToken rest) (fuel n : Nat)
    (keyAllowed : Bool) (index line column : Nat) :
    skipGaps false (fuel + 2) keyAllowed ⟨'\n' :: indentation n ++ rest, index, line, column⟩ =
      (true, ⟨rest, index + 1 + n, line + 1, n⟩) := by
  have hends : EndsRun (fun x => x = ' ' || (!keyAllowed && x = '\t'))
      ('\n' :: indentation n ++ rest) := endsRun_cons (by cases keyAllowed <;> rfl) _
  rw [skipGaps_eq rfl, Cursor.skipWhile_none hends]
  exact (skipGaps_spaces h fuel n true (index + 1) (line + 1) 0).trans (by rw [Nat.zero_add])

end Scan

end LoginGate.Yaml
