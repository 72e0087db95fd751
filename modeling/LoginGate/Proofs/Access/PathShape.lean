import LoginGate.Access.PathGrammar
import LoginGate.Proofs.Access.TokenMeaning

/-!
# The shape of accepted paths

Between the slashes of an accepted path that does not start with `^` stand operators and texts
without a star.  At most one operator is not a piece of its own: a star at the very end, or the one
`{**}` of the path, behind which no star follows:

    HasShape path ↔
      IsPieced path ∨
      (∃ q, '*' ∉ q ∧ path = q ++ ['*']) ∨
      (∃ a b, IsPieced a ∧ '*' ∉ b ∧ path = a ++ anyOperator ++ b)
    checkChars path = .ok () → path.head? ≠ some '^' → HasShape path     (hasShape_of_checkChars)
-/

namespace LoginGate.Access

open LoginGate.Text PathToken

/-! ## Tokens of joined texts -/

/-- Tokens are read from one end to the other. -/
theorem flatMap_text_ofChars (path : List Char) :
    (PathToken.ofChars path).flatMap PathToken.text = path := by
  fun_induction PathToken.ofChars path with
  | case1 rest ih => rw [List.flatMap_cons, ih]; rfl
  | case2 rest ih => rw [List.flatMap_cons, ih]; rfl
  | case3 rest ih => rw [List.flatMap_cons, ih]; rfl
  | case4 c rest _ _ _ ih => rw [List.flatMap_cons, ih]; rfl
  | case5 => rfl

theorem ofChars_injective {a b : List Char} (h : PathToken.ofChars a = PathToken.ofChars b) :
    a = b := by
  rw [← flatMap_text_ofChars a, h, flatMap_text_ofChars b]

theorem ofChars_of_not_mem {s : List Char} (h : '*' ∉ s) :
    PathToken.ofChars s = s.map literal := by
  fun_induction PathToken.ofChars s with
  | case1 rest ih => simp at h
  | case2 rest ih => simp at h
  | case3 rest ih => simp at h
  | case4 c rest _ _ _ ih => rw [List.map_cons, ih fun hm => h (List.mem_cons_of_mem c hm)]
  | case5 => rfl

/-- No operator goes on with a character other than `*` and `}`, so tokens may be read up to it. -/
theorem ofChars_append_cons {c : Char} (h1 : c ≠ '*') (h2 : c ≠ '}') (a b : List Char) :
    PathToken.ofChars (a ++ c :: b) = PathToken.ofChars a ++ PathToken.ofChars (c :: b) := by
  fun_induction PathToken.ofChars a with
  | case1 rest ih => simp only [List.cons_append, PathToken.ofChars, ih]
  | case2 rest ih => simp only [List.cons_append, PathToken.ofChars, ih]
  | case3 rest ih => simp only [List.cons_append, PathToken.ofChars, ih]
  | case4 d rest hany hone hstar ih =>
    rw [List.cons_append, PathToken.ofChars, ih, List.cons_append]
    · rintro t rfl ht
      -- the operator would begin in `d :: rest` and end behind it
      rcases rest with _ | ⟨x, _ | ⟨y, _ | ⟨z, u⟩⟩⟩
      · exact h1 (List.cons.inj ht).1
      · exact h1 (List.cons.inj (List.cons.inj ht).2).1
      · exact h2 (List.cons.inj (List.cons.inj (List.cons.inj ht).2).2).1
      · simp only [List.cons_append, List.cons.injEq] at ht
        obtain ⟨rfl, rfl, rfl, -⟩ := ht
        exact hany u rfl rfl
    · rintro t rfl ht
      rcases rest with _ | ⟨x, _ | ⟨y, u⟩⟩
      · exact h1 (List.cons.inj ht).1
      · exact h2 (List.cons.inj (List.cons.inj ht).2).1
      · simp only [List.cons_append, List.cons.injEq] at ht
        obtain ⟨rfl, rfl, -⟩ := ht
        exact hone u rfl rfl
    · exact hstar
  | case5 => rfl

theorem ofChars_append_anyOperator (a b : List Char) :
    PathToken.ofChars (a ++ anyOperator ++ b) =
      PathToken.ofChars a ++ anyText :: PathToken.ofChars b := by
  rw [List.append_assoc]
  show PathToken.ofChars (a ++ '{' :: ('*' :: '*' :: '}' :: b)) = _
  rw [ofChars_append_cons (by decide) (by decide)]
  rfl

theorem ofChars_append_slash (a b : List Char) :
    PathToken.ofChars (a ++ '/' :: b) =
      PathToken.ofChars a ++ literal '/' :: PathToken.ofChars b := by
  rw [ofChars_append_cons (by decide) (by decide)]
  rfl

/-! ## Pieces -/

/-- Does every piece of a path stand for itself, unless it is `{*}`? -/
def IsPieced (path : List Char) : Prop :=
  ∀ piece ∈ pieces '/' path, piece = oneOperator ∨ '*' ∉ piece

theorem isPieced_of_not_mem {path : List Char} (h : '*' ∉ path) : IsPieced path :=
  fun _ hp => Or.inr fun hm => h (mem_of_mem_pieces hp hm)

theorem isPieced_append_slash {s rest : List Char} (hs : s = oneOperator ∨ '*' ∉ s)
    (hslash : '/' ∉ s) (h : IsPieced rest) : IsPieced (s ++ '/' :: rest) := by
  intro piece hp
  rw [pieces_cons_of_not_mem hslash] at hp
  rcases List.mem_cons.1 hp with rfl | hp
  · exact hs
  · exact h piece hp

/-- A property of one piece that a piece in front keeps, is a property of every such path. -/
theorem IsPieced.induction {P : List Char → Prop}
    (one : ∀ s, s = oneOperator ∨ '*' ∉ s → '/' ∉ s → P s)
    (step : ∀ s rest, s = oneOperator ∨ '*' ∉ s → '/' ∉ s → P rest → P (s ++ '/' :: rest))
    {path : List Char} (h : IsPieced path) : P path := by
  have hslash := not_mem_of_mem_pieces '/' path
  rw [← join_pieces '/' path]
  have hne := pieces_ne_nil '/' path
  unfold IsPieced at h
  generalize pieces '/' path = ps at h hslash hne
  induction ps with
  | nil => exact absurd rfl hne
  | cons s ps ih =>
    have hs := h s List.mem_cons_self
    have hss := hslash s List.mem_cons_self
    by_cases hn : ps = []
    · subst hn
      exact one s hs hss
    · rw [join_cons_of_ne_nil _ _ hn, List.append_assoc, List.singleton_append]
      exact step s _ hs hss (ih (fun t ht => h t (List.mem_cons_of_mem s ht))
        (fun t ht => hslash t (List.mem_cons_of_mem s ht)) hn)

theorem ofChars_piece {s : List Char} (h : s = oneOperator ∨ '*' ∉ s) :
    PathToken.ofChars s = if s = oneOperator then [oneSegment] else s.map literal := by
  by_cases hs : s = oneOperator
  · rw [if_pos hs, hs]
    rfl
  · rw [if_neg hs, ofChars_of_not_mem (h.resolve_left hs)]

/-- Only `{*}` and literals are read from such a path. -/
theorem IsPieced.not_mem {path : List Char} (h : IsPieced path) :
    anyText ∉ PathToken.ofChars path ∧ bareStar ∉ PathToken.ofChars path := by
  have one : ∀ s, s = oneOperator ∨ '*' ∉ s →
      anyText ∉ PathToken.ofChars s ∧ bareStar ∉ PathToken.ofChars s := by
    intro s hs
    rw [ofChars_piece hs]
    split <;> simp
  refine h.induction (fun s hs _ => one s hs) fun s rest hs _ ih => ?_
  rw [ofChars_append_slash]
  simp [one s hs, ih]

/-! ## Templates -/

/-- The shape of the pieces of a template from left to right. -/
inductive Shaped : List (List Char) → Prop
  | nil : Shaped []
  | cons {s : List Char} {rest : List (List Char)} :
      s = oneOperator ∨ '*' ∉ s → Shaped rest → Shaped (s :: rest)
  | any {s : List Char} {rest : List (List Char)} :
      '*' ∉ s → (∀ t ∈ rest, '*' ∉ t) → Shaped ((s ++ anyOperator) :: rest)

theorem Shaped.append_nil {ps : List (List Char)} (h : Shaped ps) : Shaped (ps ++ [[]]) := by
  induction h with
  | nil => exact .cons (Or.inr List.not_mem_nil) .nil
  | cons hs _ ih => exact .cons hs ih
  | any hs hrest =>
    refine .any hs fun t ht => ?_
    rcases List.mem_append.1 ht with ht | ht
    · exact hrest t ht
    · rw [List.mem_singleton.1 ht]
      exact List.not_mem_nil

/-- Slashes at the ends of a path add empty pieces only. -/
theorem Shaped.slashes {inner l r : List Char} (h : Shaped (pieces '/' inner))
    (hl : l.all (· == '/') = true) (hr : r.all (· == '/') = true) :
    Shaped (pieces '/' (l ++ inner ++ r)) := by
  have hright : Shaped (pieces '/' (inner ++ r)) := by
    induction r generalizing inner with
    | nil => rwa [List.append_nil]
    | cons c r ih =>
      rw [List.all_cons, Bool.and_eq_true] at hr
      obtain rfl : c = '/' := eq_of_beq hr.1
      have hone : Shaped (pieces '/' (inner ++ ['/'])) := by
        rw [pieces_append_cons]
        exact h.append_nil
      have := ih hone hr.2
      rwa [List.append_assoc, List.singleton_append] at this
  rw [List.append_assoc]
  induction l with
  | nil => exact hright
  | cons c l ih =>
    rw [List.all_cons, Bool.and_eq_true] at hl
    obtain rfl : c = '/' := eq_of_beq hl.1
    rw [List.cons_append, pieces, if_pos rfl]
    exact .cons (Or.inr List.not_mem_nil) (ih hl.2)

/-- A shaped path has no `{**}`, or one with no star behind it. -/
theorem Shaped.cases {ps : List (List Char)} (h : Shaped ps) (hslash : ∀ s ∈ ps, '/' ∉ s)
    (hne : ps ≠ []) : IsPieced (join ['/'] ps) ∨
      ∃ a b, IsPieced a ∧ '*' ∉ b ∧ join ['/'] ps = a ++ anyOperator ++ b := by
  induction h with
  | nil => exact absurd rfl hne
  | @cons s rest hs _ ih =>
    have hss := hslash s List.mem_cons_self
    by_cases hn : rest = []
    · subst hn
      left
      intro piece hp
      rw [join, pieces_of_not_mem hss, List.mem_singleton] at hp
      rwa [hp]
    · rw [join_cons_of_ne_nil _ _ hn, List.append_assoc, List.singleton_append]
      rcases ih (fun t ht => hslash t (List.mem_cons_of_mem s ht)) hn with h | ⟨a, b, ha, hb, he⟩
      · exact Or.inl (isPieced_append_slash hs hss h)
      · refine Or.inr ⟨s ++ '/' :: a, b, isPieced_append_slash hs hss ha, hb, ?_⟩
        rw [he, List.append_assoc s, List.append_assoc s, List.cons_append, List.cons_append]
  | @any s rest hs hrest =>
    right
    have hp : IsPieced s := isPieced_of_not_mem hs
    by_cases hn : rest = []
    · subst hn
      exact ⟨s, [], hp, List.not_mem_nil, (List.append_nil _).symm⟩
    · refine ⟨s, '/' :: join ['/'] rest, hp, ?_, ?_⟩
      · have hstar : '*' ∉ join ['/'] rest := by
          intro hm
          rcases mem_of_mem_join hm with hm | ⟨t, ht, hm⟩
          · exact absurd (List.mem_singleton.1 hm) (by decide)
          · exact hrest t ht hm
        simpa using hstar
      · rw [join_cons_of_ne_nil _ _ hn, List.append_assoc (s ++ anyOperator), List.singleton_append]

/-! ## What the check accepts -/

theorem head?_ne_caret {path : List Char} (h : path.head? = some '/') : path.head? ≠ some '^' := by
  rw [h]
  decide

theorem not_mem_of_checkLiteral {segment literal : List Char}
    (h : checkLiteral segment literal = .ok ()) : '*' ∉ literal := by
  unfold checkLiteral at h
  split at h
  · next hl =>
    intro hm
    rw [Bool.and_eq_true] at hl
    exact absurd (List.all_eq_true.1 hl.2 '*' hm) (by decide)
  · cases h

/-- What an accepted first segment is, and how the check goes on. -/
theorem checkSegments_cons {sawOne sawAny : Bool} {s : List Char} {rest : List (List Char)}
    (h : checkSegments sawOne sawAny (s :: rest) = .ok ()) :
    (s = oneOperator ∧ sawAny = false ∧ checkSegments true sawAny rest = .ok ()) ∨
    (s = anyOperator ∧ sawAny = false ∧ checkSegments sawOne true rest = .ok ()) ∨
    (∃ literal, s = literal ++ anyOperator ∧ checkLiteral s literal = .ok () ∧
      rest = [] ∧ sawOne = false ∧ sawAny = false) ∨
    (checkLiteral s s = .ok () ∧ checkSegments sawOne sawAny rest = .ok ()) := by
  rw [checkSegments] at h
  by_cases h1 : s = oneOperator
  · rw [if_pos h1] at h
    cases sawAny with
    | true => cases h
    | false => exact Or.inl ⟨h1, rfl, h⟩
  rw [if_neg h1] at h
  by_cases h2 : s = anyOperator
  · rw [if_pos h2] at h
    cases sawAny with
    | true => cases h
    | false => exact Or.inr (Or.inl ⟨h2, rfl, h⟩)
  rw [if_neg h2] at h
  right
  right
  split at h
  · next literal hd =>
    left
    split at h
    · cases h
    · cases hl : checkLiteral s literal with
      | error e =>
        rw [hl] at h
        cases h
      | ok u =>
        rw [hl] at h
        have hs := eq_append_of_dropSuffix? hd
        simp only [bind, Except.bind] at h
        split at h
        · cases h
        · next hflags =>
          simp only [Bool.or_eq_true, Bool.not_eq_true', List.isEmpty_eq_false_iff, not_or,
            Classical.not_not, Bool.not_eq_true] at hflags
          exact ⟨literal, hs, hl, hflags.1.1, hflags.1.2, hflags.2⟩
  · right
    split at h
    · cases h
    · cases hl : checkLiteral s s with
      | error e =>
        rw [hl] at h
        cases h
      | ok u =>
        rw [hl] at h
        exact ⟨rfl, h⟩

/-- Behind `{**}` no segment has a star. -/
theorem not_mem_of_checkSegments {sawOne : Bool} {segs : List (List Char)}
    (h : checkSegments sawOne true segs = .ok ()) : ∀ s ∈ segs, '*' ∉ s := by
  induction segs with
  | nil =>
    intro s hs
    cases hs
  | cons s rest ih =>
    rcases checkSegments_cons h with ⟨-, hf, -⟩ | ⟨-, hf, -⟩ | ⟨_, -, -, -, -, hf⟩ | ⟨hl, hr⟩
    · cases hf
    · cases hf
    · cases hf
    · intro t ht
      rcases List.mem_cons.1 ht with rfl | ht
      · exact not_mem_of_checkLiteral hl
      · exact ih hr t ht

theorem shaped_of_checkSegments {sawOne : Bool} {segs : List (List Char)}
    (h : checkSegments sawOne false segs = .ok ()) : Shaped segs := by
  induction segs generalizing sawOne with
  | nil => exact .nil
  | cons s rest ih =>
    rcases checkSegments_cons h with
      ⟨rfl, -, hr⟩ | ⟨rfl, -, hr⟩ | ⟨l, rfl, hl, rfl, -, -⟩ | ⟨hl, hr⟩
    · exact .cons (Or.inl rfl) (ih hr)
    · exact .any (s := []) List.not_mem_nil (not_mem_of_checkSegments hr)
    · exact .any (not_mem_of_checkLiteral hl) fun t ht => by cases ht
    · exact .cons (Or.inr (not_mem_of_checkLiteral hl)) (ih hr)

/-- The slashes at the ends of a template, which the check leaves out, do not matter. -/
theorem shaped_of_segments {path : List Char}
    (h : checkSegments false false (segments path) = .ok ()) : Shaped (pieces '/' path) := by
  obtain ⟨l, r, hp, hl, hr⟩ := exists_eq_append_stripWhile (· == '/') path
  rw [hp]
  refine Shaped.slashes ?_ hl hr
  have hseg := shaped_of_checkSegments h
  unfold segments at hseg
  split at hseg
  · next he =>
    rw [he]
    exact .cons (Or.inr List.not_mem_nil) .nil
  · exact hseg

/-- Outside of braces every star is bare. -/
theorem hasBareStar_iff_of_not_brace {path : List Char} (h : path.any isBrace = false) :
    hasBareStar path = true ↔ '*' ∈ path := by
  unfold hasBareStar
  induction path with
  | nil => simp [hasBareStarFrom]
  | cons c rest ih =>
    rw [List.any_cons, Bool.or_eq_false_iff] at h
    obtain ⟨h1, h2⟩ : ¬ c = '{' ∧ ¬ c = '}' := by
      simpa [isBrace] using h.1
    rw [hasBareStarFrom, if_neg h1, if_neg h2, List.mem_cons]
    by_cases hc : c = '*'
    · simp [hc]
    · rw [if_neg (by simp [hc]), ih h.2]
      simp [Ne.symm hc]

/-- The one star of a path is at its end. -/
theorem star_last_iff {path : List Char} (hmem : '*' ∈ path) :
    (¬ 1 < path.count '*' ∧ path.getLast? = some '*') ↔ ∃ q, '*' ∉ q ∧ path = q ++ ['*'] := by
  constructor
  · rintro ⟨hcount, hlast⟩
    obtain ⟨q, rfl⟩ := List.getLast?_eq_some_iff.1 hlast
    refine ⟨q, fun hq => hcount ?_, rfl⟩
    have := List.count_pos_iff.2 hq
    rw [List.count_append, List.count_singleton_self]
    omega
  · rintro ⟨q, hq, rfl⟩
    rw [List.count_append, List.count_eq_zero_of_not_mem hq, List.count_singleton_self]
    exact ⟨by decide, List.getLast?_concat⟩

/-- Operators stand between slashes, but for one at the end, or with no star behind it. -/
def HasShape (path : List Char) : Prop :=
  IsPieced path ∨ (∃ q, '*' ∉ q ∧ path = q ++ ['*']) ∨
    ∃ a b, IsPieced a ∧ '*' ∉ b ∧ path = a ++ anyOperator ++ b

/-- **The shape of accepted paths.** -/
theorem hasShape_of_checkChars {path : List Char} (h : checkChars path = .ok ())
    (hc : path.head? ≠ some '^') : HasShape path := by
  unfold checkChars at h
  rw [if_neg hc] at h
  split at h
  · cases h
  dsimp only at h
  by_cases hb : path.any isBrace = true
  · rw [hb] at h
    split at h
    · cases h
    · have := (shaped_of_segments h).cases (not_mem_of_mem_pieces '/' path) (pieces_ne_nil '/' path)
      rw [join_pieces] at this
      exact this.imp_right Or.inr
  · rw [Bool.not_eq_true] at hb
    by_cases hs : '*' ∈ path
    · rw [if_pos ((hasBareStar_iff_of_not_brace hb).2 hs), hb] at h
      right
      left
      split at h
      · cases h
      split at h
      · cases h
      · next hn =>
        exact (star_last_iff hs).1 (by simpa using hn)
    · exact Or.inl (isPieced_of_not_mem hs)

end LoginGate.Access
