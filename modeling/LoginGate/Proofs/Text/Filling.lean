import LoginGate.Text.Template

/-!
# Filling templates piece by piece

A text without a pair of opening braces is kept as it is, whatever follows, and an open place is
replaced by its value:

    fillChars value? (s ++ t) = (fillChars value? t).map (s ++ ·)               (fillChars_append)
    fillChars value? ("{{" ++ name ++ "}}" ++ t) = (fillChars value? t).map (value ++ ·)
                                                                                 (fillChars_place)
-/

namespace LoginGate.Text

/-- Has the text no two neighbours `mark mark`, and would it not begin such a pair at its end? -/
def IsClear (mark : Char) (s : List Char) : Prop :=
  cutAtPair? mark s = none ∧ s.getLast? ≠ some mark

instance (mark : Char) (s : List Char) : Decidable (IsClear mark s) :=
  inferInstanceAs (Decidable (_ ∧ _))

theorem isClear_of_not_mem {mark : Char} {s : List Char} (h : mark ∉ s) : IsClear mark s := by
  refine ⟨?_, fun hl => h (List.mem_of_getLast? hl)⟩
  fun_induction cutAtPair? mark s with
  | case1 => rfl
  | case2 a => rfl
  | case3 a b rest hab => exact absurd (hab.1 ▸ List.mem_cons_self) h
  | case4 a b rest hab ih =>
    rw [ih fun hm => h (List.mem_cons_of_mem a hm)]
    rfl

/-- The first pair of a text stands behind what is clear of pairs. -/
theorem cutAtPair?_append {mark : Char} {s : List Char} (h : IsClear mark s) (t : List Char) :
    cutAtPair? mark (s ++ t) = (cutAtPair? mark t).map fun cut => (s ++ cut.1, cut.2) := by
  obtain ⟨hcut, hlast⟩ := h
  fun_induction cutAtPair? mark s with
  | case1 =>
    rw [List.nil_append]
    exact Option.map_id'.symm ▸ rfl
  | case2 a =>
    have ha : a ≠ mark := fun ha => hlast (congrArg some ha)
    cases t with
    | nil => rfl
    | cons b t =>
      rw [List.singleton_append, cutAtPair?, if_neg fun hab => ha hab.1]
      rfl
  | case3 a b rest hab => cases hcut
  | case4 a b rest hab ih =>
    rw [Option.map_eq_none_iff] at hcut
    rw [List.getLast?_cons_cons] at hlast
    rw [List.cons_append, List.cons_append, cutAtPair?, if_neg hab, ← List.cons_append,
      ih hcut hlast, Option.map_map]
    rfl

theorem cutAtPair?_append_pair {mark : Char} {s : List Char} (h : IsClear mark s)
    (t : List Char) : cutAtPair? mark (s ++ mark :: mark :: t) = some (s, t) := by
  rw [cutAtPair?_append h, cutAtPair?, if_pos ⟨rfl, rfl⟩, Option.map_some, List.append_nil]

variable {value? : List Char → Option (List Char)} {s t before after name value : List Char}

theorem fillChars_of_eq_none (h : cutAtPair? '{' s = none) : fillChars value? s = .ok s := by
  rw [fillChars]
  split
  · rfl
  · next hs =>
    rw [h] at hs
    cases hs

theorem fillChars_of_eq_some (h : cutAtPair? '{' s = some (before, after)) :
    fillChars value? s =
      match cutAtPair? '}' after with
      | none => .error .unterminated
      | some (name, rest) =>
        match value? (trimChars name) with
        | none => .error (.unknownPlace (String.ofList (trimChars name)))
        | some value => do
          let filled ← fillChars value? rest
          return before ++ value ++ filled := by
  rw [fillChars]
  split
  · next hs =>
    rw [h] at hs
    cases hs
  · next hs =>
    rw [h] at hs
    obtain ⟨rfl, rfl⟩ := Prod.mk.inj (Option.some.inj hs)
    split
    · next he =>
      generalize cutAtPair? '}' after = cut at he
      subst he
      rfl
    · next he =>
      generalize cutAtPair? '}' after = cut at he
      subst he
      rfl

/-- What is clear of opening braces is kept. -/
theorem fillChars_append (h : IsClear '{' s) (t : List Char) :
    fillChars value? (s ++ t) = (fillChars value? t).map (s ++ ·) := by
  have hcut := cutAtPair?_append h t
  cases ht : cutAtPair? '{' t with
  | none =>
    rw [ht] at hcut
    rw [fillChars_of_eq_none hcut, fillChars_of_eq_none ht]
    rfl
  | some cut =>
    obtain ⟨before, after⟩ := cut
    rw [ht] at hcut
    rw [fillChars_of_eq_some hcut, fillChars_of_eq_some ht]
    cases cutAtPair? '}' after with
    | none => rfl
    | some place =>
      dsimp only
      cases value? (trimChars place.1) with
      | none => rfl
      | some value =>
        cases fillChars value? place.2 with
        | error e => rfl
        | ok filled =>
          show Except.ok (s ++ before ++ value ++ filled) =
            Except.ok (s ++ (before ++ value ++ filled))
          simp only [List.append_assoc]

theorem fillChars_place (h : IsClear '}' name) (hv : value? (trimChars name) = some value)
    (t : List Char) :
    fillChars value? ('{' :: '{' :: name ++ '}' :: '}' :: t) =
      (fillChars value? t).map (value ++ ·) := by
  have hopen : cutAtPair? '{' ('{' :: '{' :: name ++ '}' :: '}' :: t) =
      some ([], name ++ '}' :: '}' :: t) := by
    rw [List.cons_append, List.cons_append, cutAtPair?, if_pos ⟨rfl, rfl⟩]
  rw [fillChars_of_eq_some hopen, cutAtPair?_append_pair h]
  dsimp only
  rw [hv]
  rfl

end LoginGate.Text
