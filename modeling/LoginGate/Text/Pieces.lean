/-!
# Cutting and joining texts

`pieces sep s` cuts a text, of characters or of bytes, at every `sep`; the pieces joined by `sep`
give the text back (`join_pieces`) and none of them holds a `sep` (`not_mem_of_mem_pieces`).
-/

namespace LoginGate.Text

variable {α : Type} [DecidableEq α]

/-- The parts of a text between the occurrences of `sep`; always at least one part. -/
def pieces (sep : α) : List α → List (List α)
  | [] => [[]]
  | c :: rest =>
    if c = sep then [] :: pieces sep rest
    else match pieces sep rest with
      | [] => [[c]]
      | head :: tail => (c :: head) :: tail

/-- The texts with `sep` written between them. -/
def join (sep : List α) : List (List α) → List α
  | [] => []
  | [s] => s
  | s :: rest => s ++ sep ++ join sep rest

def dropEndWhile (p : Char → Bool) (s : List Char) : List Char :=
  (s.reverse.dropWhile p).reverse

/-- Characters that satisfy `p` removed from both ends. -/
def stripWhile (p : Char → Bool) (s : List Char) : List Char :=
  dropEndWhile p (s.dropWhile p)

/-- What follows `lead`, if the text starts with it. -/
def dropPrefix? : List Char → List Char → Option (List Char)
  | [], s => some s
  | _ :: _, [] => none
  | l :: lead, c :: s => if l = c then dropPrefix? lead s else none

/-- What precedes `tail`, if the text ends with it. -/
def dropSuffix? (tail s : List Char) : Option (List Char) :=
  (dropPrefix? tail.reverse s.reverse).map List.reverse

/-- The parts before and after the last `sep`. -/
def cutLast? (sep : Char) (s : List Char) : Option (List Char × List Char) :=
  match s.reverse.dropWhile (· != sep) with
  | [] => none
  | _ :: before => some (before.reverse, (s.reverse.takeWhile (· != sep)).reverse)

theorem pieces_ne_nil (sep : α) (s : List α) : pieces sep s ≠ [] := by
  induction s with
  | nil => simp [pieces]
  | cons c rest ih =>
    rw [pieces]
    split
    · simp
    · split <;> simp

theorem join_pieces (sep : α) (s : List α) : join [sep] (pieces sep s) = s := by
  induction s with
  | nil => rfl
  | cons c rest ih =>
    rw [pieces]
    split
    · rename_i h
      subst h
      match hp : pieces c rest with
      | [] => exact absurd hp (pieces_ne_nil c rest)
      | head :: tail => rw [hp] at ih; simp [join, ih]
    · match hp : pieces sep rest with
      | [] => exact absurd hp (pieces_ne_nil sep rest)
      | [head] => rw [hp] at ih; simp [join] at ih ⊢; exact ih
      | head :: next :: tail => rw [hp] at ih; simp [join] at ih ⊢; exact ih

theorem not_mem_of_mem_pieces (sep : α) (s : List α) :
    ∀ piece ∈ pieces sep s, sep ∉ piece := by
  induction s with
  | nil => simp [pieces]
  | cons c rest ih =>
    rw [pieces]
    split
    · intro piece hp
      rcases List.mem_cons.1 hp with rfl | hp
      · simp
      · exact ih piece hp
    · rename_i h
      split
      · intro piece hp
        simp only [List.mem_singleton] at hp
        subst hp
        simpa using fun h' => h h'.symm
      · rename_i head tail hp
        rw [hp] at ih
        intro piece hm
        rcases List.mem_cons.1 hm with rfl | hm
        · have := ih head (by simp)
          simp only [List.mem_cons, not_or]
          exact ⟨fun h' => h h'.symm, this⟩
        · exact ih piece (by simp [hm])

theorem mem_of_mem_pieces {sep c : α} {s piece : List α} (hp : piece ∈ pieces sep s)
    (hc : c ∈ piece) : c ∈ s := by
  induction s generalizing piece with
  | nil =>
    rw [pieces, List.mem_singleton] at hp
    rwa [hp] at hc
  | cons d rest ih =>
    rw [pieces] at hp
    split at hp
    · rcases List.mem_cons.1 hp with rfl | hp
      · cases hc
      · exact List.mem_cons_of_mem d (ih hp hc)
    · match hr : pieces sep rest with
      | [] => exact absurd hr (pieces_ne_nil sep rest)
      | head :: tail =>
        rw [hr] at hp ih
        rcases List.mem_cons.1 hp with rfl | hp
        · rcases List.mem_cons.1 hc with rfl | hc
          · exact List.mem_cons_self
          · exact List.mem_cons_of_mem d (ih List.mem_cons_self hc)
        · exact List.mem_cons_of_mem d (ih (List.mem_cons_of_mem head hp) hc)

theorem pieces_of_not_mem {sep : α} {s : List α} (h : sep ∉ s) : pieces sep s = [s] := by
  induction s with
  | nil => rfl
  | cons c rest ih =>
    have hc : c ≠ sep := fun hc => h (hc ▸ List.mem_cons_self)
    rw [pieces, if_neg hc, ih fun hm => h (List.mem_cons_of_mem c hm)]

/-- A separator divides the pieces before it from those behind it. -/
theorem pieces_append_cons (sep : α) (s t : List α) :
    pieces sep (s ++ sep :: t) = pieces sep s ++ pieces sep t := by
  induction s with
  | nil =>
    show pieces sep (sep :: t) = [] :: pieces sep t
    rw [pieces, if_pos rfl]
  | cons c s ih =>
    rw [List.cons_append, pieces, pieces]
    by_cases hc : c = sep
    · rw [if_pos hc, if_pos hc, ih, List.cons_append]
    · rw [if_neg hc, if_neg hc, ih]
      match hp : pieces sep s with
      | [] => exact absurd hp (pieces_ne_nil sep s)
      | head :: tail => rfl

theorem pieces_cons_of_not_mem {sep : α} {s : List α} (h : sep ∉ s) (t : List α) :
    pieces sep (s ++ sep :: t) = s :: pieces sep t := by
  rw [pieces_append_cons, pieces_of_not_mem h, List.singleton_append]

theorem join_cons_of_ne_nil {β : Type} (sep s : List β) {rest : List (List β)} (h : rest ≠ []) :
    join sep (s :: rest) = s ++ sep ++ join sep rest := by
  cases rest with
  | nil => exact absurd rfl h
  | cons t rest => rfl

theorem exists_join_cons {β : Type} (sep p : List β) (ps : List (List β)) :
    ∃ s, join sep (p :: ps) = p ++ s := by
  cases ps with
  | nil => exact ⟨[], (List.append_nil p).symm⟩
  | cons q ps => exact ⟨sep ++ join sep (q :: ps), List.append_assoc _ _ _⟩

theorem exists_join_concat {β : Type} (sep : List β) (ps : List (List β)) (p : List β) :
    ∃ s, join sep (ps ++ [p]) = s ++ p := by
  induction ps with
  | nil => exact ⟨[], rfl⟩
  | cons q ps ih =>
    obtain ⟨s, hs⟩ := ih
    refine ⟨q ++ sep ++ s, ?_⟩
    rw [List.cons_append, join_cons_of_ne_nil _ _ (by simp), hs, List.append_assoc _ s]

theorem intercalate_eq_join {β : Type} (sep : List β) (ps : List (List β)) :
    sep.intercalate ps = join sep ps := by
  induction ps with
  | nil => rfl
  | cons p ps ih =>
    by_cases hn : ps = []
    · rw [hn, List.intercalate_singleton, join]
    · rw [List.intercalate_cons_of_ne_nil hn, join_cons_of_ne_nil sep p hn, ih, List.append_assoc]

/-- What is joined from pieces without a separator is cut into them again. -/
theorem pieces_join {sep : α} {ps : List (List α)} (hne : ps ≠ []) (h : ∀ p ∈ ps, sep ∉ p) :
    pieces sep (join [sep] ps) = ps := by
  induction ps with
  | nil => exact absurd rfl hne
  | cons p ps ih =>
    have hp := h p List.mem_cons_self
    by_cases hn : ps = []
    · rw [hn, join, pieces_of_not_mem hp]
    · rw [join_cons_of_ne_nil _ _ hn, List.append_assoc, List.singleton_append,
        pieces_cons_of_not_mem hp, ih hn fun q hq => h q (List.mem_cons_of_mem p hq)]

theorem mem_of_mem_join {β : Type} {sep : List β} {ps : List (List β)} {c : β}
    (h : c ∈ join sep ps) : c ∈ sep ∨ ∃ p ∈ ps, c ∈ p := by
  induction ps with
  | nil => cases h
  | cons p ps ih =>
    by_cases hn : ps = []
    · rw [hn, join] at h
      exact Or.inr ⟨p, List.mem_cons_self, h⟩
    · rw [join_cons_of_ne_nil _ _ hn, List.mem_append, List.mem_append] at h
      rcases h with (h | h) | h
      · exact Or.inr ⟨p, List.mem_cons_self, h⟩
      · exact Or.inl h
      · rcases ih h with h | ⟨q, hq, hc⟩
        · exact Or.inl h
        · exact Or.inr ⟨q, List.mem_cons_of_mem p hq, hc⟩

/-- Every character but the separator is in a piece. -/
theorem exists_mem_pieces {sep c : α} {s : List α} (h : c ∈ s) (hc : c ≠ sep) :
    ∃ p ∈ pieces sep s, c ∈ p := by
  rw [← join_pieces sep s] at h
  refine (mem_of_mem_join h).resolve_left fun hs => hc ?_
  exact List.mem_singleton.1 hs

/-- What is removed from both ends satisfies the predicate. -/
theorem exists_eq_append_stripWhile (p : Char → Bool) (s : List Char) :
    ∃ l r, s = l ++ stripWhile p s ++ r ∧ l.all p = true ∧ r.all p = true := by
  refine ⟨s.takeWhile p, ((s.dropWhile p).reverse.takeWhile p).reverse, ?_, List.all_takeWhile, ?_⟩
  · rw [stripWhile, dropEndWhile, List.append_assoc, ← List.reverse_append,
      List.takeWhile_append_dropWhile, List.reverse_reverse, List.takeWhile_append_dropWhile]
  · rw [List.all_reverse]
    exact List.all_takeWhile

/-- What stands between characters that satisfy the predicate, and has none of them at its ends. -/
theorem stripWhile_append {p : Char → Bool} {l inner r : List Char} (hl : l.all p = true)
    (hr : r.all p = true) (hfirst : ∃ c s, inner = c :: s ∧ p c = false)
    (hlast : ∃ s c, inner = s ++ [c] ∧ p c = false) : stripWhile p (l ++ inner ++ r) = inner := by
  have hleft : (l ++ inner ++ r).dropWhile p = inner ++ r := by
    obtain ⟨c, s, rfl, hc⟩ := hfirst
    rw [List.append_assoc, List.dropWhile_append_of_pos (List.all_eq_true.1 hl), List.cons_append,
      List.dropWhile_cons_of_neg (by simp [hc])]
  obtain ⟨s, c, rfl, hc⟩ := hlast
  have hr' : ∀ d ∈ r.reverse, p d = true := fun d hd => List.all_eq_true.1 hr d (by simpa using hd)
  rw [stripWhile, hleft, dropEndWhile, List.reverse_append, List.dropWhile_append_of_pos hr',
    List.reverse_append, List.reverse_singleton, List.singleton_append,
    List.dropWhile_cons_of_neg (by simp [hc]), List.reverse_cons, List.reverse_reverse]

theorem dropPrefix?_append (lead s : List Char) : dropPrefix? lead (lead ++ s) = some s := by
  induction lead with
  | nil => simp [dropPrefix?]
  | cons c lead ih => simp [dropPrefix?, ih]

theorem eq_append_of_dropPrefix? {lead s rest : List Char} (h : dropPrefix? lead s = some rest) :
    s = lead ++ rest := by
  induction lead generalizing s with
  | nil => simp_all [dropPrefix?]
  | cons c lead ih =>
    match s with
    | [] => simp [dropPrefix?] at h
    | d :: s =>
      simp only [dropPrefix?] at h
      split at h
      · rename_i hc
        simp [hc, ih h]
      · simp at h

theorem eq_append_of_dropSuffix? {tail s rest : List Char} (h : dropSuffix? tail s = some rest) :
    s = rest ++ tail := by
  obtain ⟨r, hr, rfl⟩ := Option.map_eq_some_iff.1 h
  rw [← List.reverse_reverse s, eq_append_of_dropPrefix? hr, List.reverse_append,
    List.reverse_reverse]

theorem dropSuffix?_append (s tail : List Char) : dropSuffix? tail (s ++ tail) = some s := by
  rw [dropSuffix?, List.reverse_append, dropPrefix?_append, Option.map_some, List.reverse_reverse]

theorem cutLast?_append {sep : Char} (s : List Char) {rest : List Char} (h : sep ∉ rest) :
    cutLast? sep (s ++ sep :: rest) = some (s, rest) := by
  have hrest : ∀ c ∈ rest.reverse, (c != sep) = true := fun c hc =>
    bne_iff_ne.2 fun heq => h (heq ▸ List.mem_reverse.1 hc)
  rw [cutLast?, List.reverse_append, List.reverse_cons, List.append_assoc, List.singleton_append,
    List.dropWhile_append_of_pos hrest, List.takeWhile_append_of_pos hrest]
  simp

theorem cutLast?_of_not_mem {sep : Char} {s : List Char} (h : sep ∉ s) : cutLast? sep s = none := by
  have hall : ∀ c ∈ s.reverse, (c != sep) = true := fun c hc =>
    bne_iff_ne.2 fun heq => h (heq ▸ List.mem_reverse.1 hc)
  have hnil : (s.reverse ++ []).dropWhile (· != sep) = [] := List.dropWhile_append_of_pos hall
  rw [List.append_nil] at hnil
  rw [cutLast?, hnil]

/-- A text without the character, or its parts before and after the last one. -/
theorem eq_cutLast? (sep : Char) (s : List Char) :
    sep ∉ s ∨ ∃ before after, s = before ++ sep :: after ∧ sep ∉ after := by
  induction s with
  | nil => exact Or.inl List.not_mem_nil
  | cons c s ih =>
    obtain hs | ⟨before, after, rfl, hafter⟩ := ih
    · by_cases hc : c = sep
      · exact Or.inr ⟨[], s, by rw [hc]; rfl, hs⟩
      · exact Or.inl (by simp [Ne.symm hc, hs])
    · exact Or.inr ⟨c :: before, after, rfl, hafter⟩

end LoginGate.Text
