import Mathlib.Data.List.DropRight
import Mathlib.Data.List.TakeWhile
import LoginGate.Text.Blank

/-!
# Runs of characters

A run of characters ends where the text does, or before the first other character (`EndsRun`).  What
reads runs at once is reasoned about by `run_induction`: a text is empty, or starts with a run, or
with one other character.

A trimmed text has no run of blank characters at its ends left, so it does not matter how often a
text is trimmed (`trim_trim`).
-/

namespace LoginGate.Text

section

variable {α : Type} {p : α → Bool}

/-- No run of such characters goes on in the text. -/
def EndsRun (p : α → Bool) (rest : List α) : Prop := ∀ c ∈ rest.head?, p c = false

theorem endsRun_nil : EndsRun p [] := by
  intro c hc
  cases hc

theorem endsRun_cons {c : α} (h : p c = false) (rest : List α) : EndsRun p (c :: rest) := by
  intro d hd
  rwa [← Option.some.inj hd]

theorem endsRun_dropWhile (p : α → Bool) (s : List α) : EndsRun p (s.dropWhile p) := by
  intro c hc
  have := List.head?_dropWhile_not p s
  rw [Option.mem_def.1 hc] at this
  simpa using this

variable {run rest : List α} (hrun : ∀ c ∈ run, p c = true) (hrest : EndsRun p rest)

include hrun hrest

theorem takeWhile_run : (run ++ rest).takeWhile p = run := by
  rw [List.takeWhile_append_of_pos hrun]
  cases rest with
  | nil => rw [List.takeWhile_nil, List.append_nil]
  | cons c rest =>
    rw [List.takeWhile_cons_of_neg (by rw [hrest c rfl]; exact Bool.false_ne_true), List.append_nil]

theorem dropWhile_run : (run ++ rest).dropWhile p = rest := by
  rw [List.dropWhile_append_of_pos hrun]
  cases rest with
  | nil => rfl
  | cons c rest => rw [List.dropWhile_cons_of_neg (by rw [hrest c rfl]; exact Bool.false_ne_true)]

omit hrun hrest

/-- Induction over runs: each is taken as a whole. -/
theorem run_induction {motive : List α → Prop} (p : α → Bool) (nil : motive [])
    (run : ∀ run rest, run ≠ [] → (∀ c ∈ run, p c = true) → EndsRun p rest → motive rest →
      motive (run ++ rest))
    (other : ∀ c rest, p c = false → motive rest → motive (c :: rest)) (s : List α) : motive s := by
  -- Both what is left and what is left behind a run have the property.
  suffices h : motive s ∧ motive (s.dropWhile p) from h.1
  induction s with
  | nil => exact ⟨nil, nil⟩
  | cons c s ih =>
    cases hc : p c with
    | false =>
      rw [List.dropWhile_cons_of_neg (by rw [hc]; exact Bool.false_ne_true)]
      exact ⟨other c s hc ih.1, other c s hc ih.1⟩
    | true =>
      rw [List.dropWhile_cons_of_pos hc]
      refine ⟨?_, ih.2⟩
      rw [← List.takeWhile_append_dropWhile (p := p) (l := s), ← List.cons_append]
      refine run _ _ (List.cons_ne_nil _ _) (fun d hd => ?_) (endsRun_dropWhile p s) ih.2
      obtain rfl | hd := List.mem_cons.1 hd
      · exact hc
      · exact List.mem_takeWhile_imp hd

end

/-! ## Trimming -/

theorem trimChars_eq_rdropWhile (s : List Char) :
    trimChars s = (s.dropWhile isBlank).rdropWhile isBlank := rfl

/-- A text without blank characters is trimmed. -/
theorem trimChars_of_forall {s : List Char} (h : ∀ c ∈ s, isBlank c = false) : trimChars s = s := by
  have hl : s.dropWhile isBlank = s := by
    rw [List.dropWhile_eq_self_iff]
    intro hpos
    rw [h _ (List.getElem_mem hpos)]
    exact Bool.false_ne_true
  have hr : s.rdropWhile isBlank = s := by
    rw [List.rdropWhile_eq_self_iff]
    intro hne
    rw [h _ (List.getLast_mem hne)]
    exact Bool.false_ne_true
  rw [trimChars_eq_rdropWhile, hl, hr]

/-- What is removed from the end leaves the first character in place. -/
theorem dropWhile_rdropWhile {p : Char → Bool} {s : List Char} (h : s.dropWhile p = s) :
    (s.rdropWhile p).dropWhile p = s.rdropWhile p := by
  rw [List.dropWhile_eq_self_iff] at h ⊢
  intro hl
  have hpre := List.rdropWhile_prefix p s
  have hs : 0 < s.length := Nat.lt_of_lt_of_le hl hpre.length_le
  rw [hpre.getElem hl]
  exact h hs

theorem trimChars_trimChars (s : List Char) : trimChars (trimChars s) = trimChars s := by
  have h := dropWhile_rdropWhile (List.dropWhile_idempotent isBlank s)
  rw [trimChars_eq_rdropWhile, trimChars_eq_rdropWhile, h, List.rdropWhile_idempotent]

theorem trim_trim (s : String) : trim (trim s) = trim s := by
  rw [trim, trim, String.toList_ofList, trimChars_trimChars]

/-- A trimmed text has nothing to lose at either end. -/
theorem dropWhile_of_trimChars {s : List Char} (h : trimChars s = s) :
    s.dropWhile isBlank = s ∧ s.rdropWhile isBlank = s := by
  rw [trimChars_eq_rdropWhile] at h
  have hprefix := List.rdropWhile_prefix isBlank (s.dropWhile isBlank)
  rw [h] at hprefix
  have hdrop : s.dropWhile isBlank = s :=
    (List.dropWhile_suffix isBlank).eq_of_length_le hprefix.length_le
  rw [hdrop] at h
  exact ⟨hdrop, h⟩

end LoginGate.Text
