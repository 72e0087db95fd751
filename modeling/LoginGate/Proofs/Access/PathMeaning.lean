import Mathlib.Data.List.Forall2
import LoginGate.Proofs.Access.PathShape

/-!
# What paths match

A piece of a path between slashes faces a part of a request path: `{*}` faces any part that is not
empty, and every other piece faces its own bytes.  A path without other operators covers what its
pieces face, part by part:

    IsPieced path → (CoversAll (ofChars path) s ↔ Forall₂ Faces (pieces '/' path) (pieces 47 s))
                                                                       (coversAll_iff_forall₂)

From the shape of accepted paths follows what each of them matches (`finds_compile_iff`).

No path needs to be accepted for its compiled form to mean something.  `CoversStart` says what the
tokens of a path stand for where nothing binds them to the end of a subject but a dollar sign that
ends the path, and `Means` which of the two readings a path has:

    finds (textBytes (compile path)) s = true ↔ Means path.toList s       (compile_means)
-/

namespace LoginGate.Access

open LoginGate.Text LoginGate.Lua PathToken

/-! ## Pieces and parts -/

/-- Does a piece of a path allow this part of a request path in its place? -/
def Faces (piece : List Char) (part : List UInt8) : Prop :=
  if piece = oneOperator then part ≠ [] else part = utf8 piece

instance (piece : List Char) (part : List UInt8) : Decidable (Faces piece part) :=
  inferInstanceAs (Decidable (if piece = oneOperator then part ≠ [] else part = utf8 piece))

theorem slash_mem_utf8_iff (s : List Char) : 47 ∈ utf8 s ↔ '/' ∈ s :=
  mem_utf8_iff (d := '/') (by decide) s

theorem coversAll_piece {s : List Char} (h : s = oneOperator ∨ '*' ∉ s) (hslash : '/' ∉ s)
    (x : List UInt8) : CoversAll (PathToken.ofChars s) x ↔ Faces s x ∧ 47 ∉ x := by
  rw [ofChars_piece h, Faces]
  split
  · rw [coversAll_singleton]
    exact Iff.rfl
  · rw [coversAll_literals]
    refine (and_iff_left_of_imp ?_).symm
    rintro rfl
    rwa [slash_mem_utf8_iff]

theorem coversAll_append_slash (s rest : List Char) (r : List UInt8) :
    CoversAll (PathToken.ofChars (s ++ '/' :: rest)) r ↔
      ∃ x y, r = x ++ 47 :: y ∧ CoversAll (PathToken.ofChars s) x ∧
        CoversAll (PathToken.ofChars rest) y := by
  rw [ofChars_append_slash, coversAll_append]
  constructor
  · rintro ⟨x, _, rfl, hx, _, y, rfl, rfl, hy⟩
    exact ⟨x, y, rfl, hx, hy⟩
  · rintro ⟨x, y, rfl, hx, hy⟩
    exact ⟨x, 47 :: y, rfl, hx, [47], y, rfl, rfl, hy⟩

/-- A path without other operators covers what its pieces face, part by part. -/
theorem coversAll_iff_forall₂ {path : List Char} (h : IsPieced path) (r : List UInt8) :
    CoversAll (PathToken.ofChars path) r ↔
      List.Forall₂ Faces (pieces '/' path) (pieces 47 r) := by
  refine IsPieced.induction
    (P := fun path => ∀ r, CoversAll (PathToken.ofChars path) r ↔
      List.Forall₂ Faces (pieces '/' path) (pieces 47 r))
    (fun s hs hslash r => ?_) (fun s rest hs hslash ih r => ?_) h r
  · rw [coversAll_piece hs hslash, pieces_of_not_mem hslash]
    constructor
    · rintro ⟨hf, hr⟩
      rw [pieces_of_not_mem hr]
      exact .cons hf .nil
    · intro hp
      obtain ⟨x, u, hx, hu, hr⟩ := List.forall₂_cons_left_iff.1 hp
      obtain rfl := List.forall₂_nil_left_iff.1 hu
      have hmem : 47 ∉ x := not_mem_of_mem_pieces 47 r x (hr ▸ List.mem_cons_self)
      have : r = x := by
        rw [← join_pieces 47 r, hr]
        rfl
      rw [this]
      exact ⟨hx, hmem⟩
  · rw [coversAll_append_slash, pieces_cons_of_not_mem hslash]
    constructor
    · rintro ⟨x, y, rfl, hx, hy⟩
      obtain ⟨hf, hx⟩ := (coversAll_piece hs hslash x).1 hx
      rw [pieces_cons_of_not_mem hx]
      exact .cons hf ((ih y).1 hy)
    · intro hp
      obtain ⟨x, u, hx, hu, hr⟩ := List.forall₂_cons_left_iff.1 hp
      have hmem : 47 ∉ x := not_mem_of_mem_pieces 47 r x (hr ▸ List.mem_cons_self)
      have hne : u ≠ [] := by
        rintro rfl
        exact pieces_ne_nil '/' rest (List.forall₂_nil_right_iff.1 hu)
      have heq : r = x ++ 47 :: join [47] u := by
        rw [← join_pieces 47 r, hr, join_cons_of_ne_nil _ _ hne, List.append_assoc]
        rfl
      have hpu : pieces 47 (join [47] u) = u := by
        rw [heq, pieces_cons_of_not_mem hmem] at hr
        exact (List.cons.inj hr).2
      refine ⟨x, join [47] u, heq, (coversAll_piece hs hslash x).2 ⟨hx, hmem⟩, ?_⟩
      rwa [ih, hpu]

/-! ## Telling the shapes apart -/

theorem IsPieced.getLast?_ne {path : List Char} (h : IsPieced path) :
    path.getLast? ≠ some '*' := by
  have one : ∀ s, s = oneOperator ∨ '*' ∉ s → s.getLast? ≠ some '*' := by
    rintro s (rfl | hs) hl
    · revert hl
      decide
    · exact hs (List.mem_of_getLast? hl)
  refine h.induction (fun s hs _ => one s hs) fun s rest hs _ ih hl => ?_
  rw [List.getLast?_append, List.getLast?_cons] at hl
  cases hr : rest.getLast? with
  | none =>
    rw [hr] at hl
    simp at hl
  | some c =>
    rw [hr] at hl
    refine ih (hr.trans ?_)
    simpa using hl

/-- A star stands in such a path inside of `{*}` only. -/
theorem IsPieced.oneOperator_isInfix {path : List Char} (h : IsPieced path) (hm : '*' ∈ path) :
    oneOperator <:+: path := by
  have hpiece : ∀ s, s = oneOperator ∨ '*' ∉ s → '*' ∈ s → oneOperator <:+: s := by
    rintro s (rfl | hs) hms
    · exact List.infix_rfl
    · exact absurd hms hs
  revert hm
  refine h.induction (fun s hs _ => hpiece s hs) fun s rest hs _ ih hm => ?_
  rcases List.mem_append.1 hm with hm | hm
  · exact (hpiece s hs hm).trans (List.infix_append' [] s _)
  · rcases List.mem_cons.1 hm with hm | hm
    · exact absurd hm (by decide)
    · exact (ih hm).trans ⟨s ++ ['/'], [], by simp⟩

theorem IsPieced.not_anyOperator_isInfix {path : List Char} (h : IsPieced path) :
    ¬ anyOperator <:+: path := by
  rintro ⟨a, b, rfl⟩
  apply h.not_mem.1
  rw [ofChars_append_anyOperator]
  exact List.mem_append_right _ List.mem_cons_self

/-- The only star of a path does not stand before something else. -/
theorem append_star_ne {q a b : List Char} {c : Char} (hq : '*' ∉ q) :
    q ++ ['*'] ≠ a ++ '*' :: c :: b := by
  intro h
  have := (List.append_cons_inj_of_notMem hq List.not_mem_nil).1 h
  simp at this

theorem ofChars_append_star {q : List Char} (hq : '*' ∉ q) :
    PathToken.ofChars (q ++ ['*']) = q.map literal ++ [bareStar] := by
  induction q with
  | nil => rfl
  | cons c q ih =>
    obtain ⟨hc, hq⟩ : '*' ≠ c ∧ '*' ∉ q := by
      simpa [not_or] using hq
    rw [List.cons_append, PathToken.ofChars, ih hq]
    · rfl
    · rintro t - ht
      cases q with
      | nil => cases ht
      | cons d q => exact hq ((List.cons.inj ht).1 ▸ List.mem_cons_self)
    · rintro t - ht
      cases q with
      | nil => cases ht
      | cons d q => exact hq ((List.cons.inj ht).1 ▸ List.mem_cons_self)
    · exact fun h => hc h.symm

/-- `{**}` cuts a path in one way. -/
theorem eq_of_append_anyOperator {a b a' b' : List Char} (ha : IsPieced a) (hb : '*' ∉ b)
    (h : a ++ anyOperator ++ b = a' ++ anyOperator ++ b') : a = a' ∧ b = b' := by
  have ht := congrArg PathToken.ofChars h
  rw [ofChars_append_anyOperator, ofChars_append_anyOperator] at ht
  have hnb : anyText ∉ PathToken.ofChars b := by
    rw [ofChars_of_not_mem hb]
    simp
  obtain ⟨h1, -, h2⟩ := (List.append_cons_inj_of_notMem ha.not_mem.1 hnb).1 ht
  exact ⟨ofChars_injective h1, ofChars_injective h2⟩

namespace HasShape

variable {path q a b : List Char}

/-- The star at the end of a path is its only one. -/
theorem not_mem_of_append_star (h : HasShape (q ++ ['*'])) : '*' ∉ q := by
  rcases h with hs | ⟨q', hq, hs⟩ | ⟨a, b, -, hb, hs⟩
  · exact absurd (by simp) hs.getLast?_ne
  · rwa [List.append_cancel_right hs]
  · have hl : (a ++ anyOperator ++ b).getLast? = some '*' := by
      rw [← hs, List.getLast?_concat]
    rw [List.getLast?_append] at hl
    cases hbl : b.getLast? with
    | none =>
      rw [hbl, List.getLast?_append] at hl
      exact absurd hl (by simp [anyOperator])
    | some c =>
      rw [hbl] at hl
      obtain rfl : c = '*' := by simpa using hl
      exact absurd (List.mem_of_getLast? hbl) hb

/-- A template without `{**}` has its operators between slashes. -/
theorem isPieced (h : HasShape path) (h1 : oneOperator <:+: path)
    (h2 : ¬ anyOperator <:+: path) : IsPieced path := by
  rcases h with hs | ⟨q, hq, hs⟩ | ⟨a, b, -, -, hs⟩
  · exact hs
  · obtain ⟨u, v, hp⟩ := h1
    refine absurd (hs.symm.trans hp.symm) ?_
    have := append_star_ne (q := q) (a := u ++ ['\x7b']) (b := v) (c := '\x7d') hq
    simpa [oneOperator] using this
  · exact absurd ⟨a, b, hs.symm⟩ h2

/-- In front of `{**}` operators stand between slashes, and behind it no star is left. -/
theorem isPieced_of_append_anyOperator (h : HasShape (a ++ anyOperator ++ b)) :
    IsPieced a ∧ '*' ∉ b := by
  rcases h with hs | ⟨q, hq, hs⟩ | ⟨a', b', ha, hb, hs⟩
  · exact absurd ⟨a, b, rfl⟩ hs.not_anyOperator_isInfix
  · refine absurd hs.symm ?_
    have := append_star_ne (q := q) (a := a ++ ['\x7b']) (b := '\x7d' :: b) (c := '*') hq
    simpa [anyOperator] using this
  · obtain ⟨rfl, rfl⟩ := eq_of_append_anyOperator ha hb hs.symm
    exact ⟨ha, hb⟩

/-- A path without a star, with a bare one at its end, or with one of the operators. -/
theorem kinds (h : HasShape path) : '*' ∉ path ∨ (∃ q, path = q ++ ['*']) ∨
    (oneOperator <:+: path ∧ ¬ anyOperator <:+: path) ∨ ∃ a b, path = a ++ anyOperator ++ b := by
  rcases h with hs | ⟨q, -, hs⟩ | ⟨a, b, -, -, hs⟩
  · by_cases hm : '*' ∈ path
    · exact Or.inr (Or.inr (Or.inl ⟨hs.oneOperator_isInfix hm, hs.not_anyOperator_isInfix⟩))
    · exact Or.inl hm
  · exact Or.inr (Or.inl ⟨q, hs⟩)
  · exact Or.inr (Or.inr (Or.inr ⟨a, b, hs⟩))

end HasShape

/-! ## Matching -/

section

variable {path : List Char} (hc : path.head? ≠ some '^') (r : List UInt8)

include hc

theorem finds_plain (h : '*' ∉ path) :
    finds (utf8 (compileChars path)) r = true ↔ r = utf8 path := by
  rw [finds_iff_coversAll hc, ofChars_of_not_mem h, coversAll_literals]
  rw [ofChars_of_not_mem h]
  simp

theorem finds_star {q : List Char} (hp : path = q ++ ['*']) (hq : '*' ∉ q) :
    finds (utf8 (compileChars path)) r = true ↔ utf8 q <+: r := by
  have ht : PathToken.ofChars path = q.map literal ++ [bareStar] := by
    rw [hp, ofChars_append_star hq]
  rw [finds_bareStar_iff hc (by simp [ht]) (by simp [ht]), ht]
  simp only [coversAll_append, coversAll_literals, coversAll_singleton]
  constructor
  · rintro ⟨_, y, rfl, _, x, rfl, rfl, -⟩
    exact ⟨x ++ y, (List.append_assoc _ _ _).symm⟩
  · rintro ⟨y, rfl⟩
    exact ⟨utf8 q, y, rfl, utf8 q, [], (List.append_nil _).symm, rfl, trivial⟩

theorem finds_pieces (h : IsPieced path) :
    finds (utf8 (compileChars path)) r = true ↔
      List.Forall₂ Faces (pieces '/' path) (pieces 47 r) := by
  rw [finds_iff_coversAll hc h.not_mem.2, coversAll_iff_forall₂ h]

theorem finds_any {a b : List Char} (hp : path = a ++ anyOperator ++ b) (ha : IsPieced a)
    (hb : '*' ∉ b) :
    finds (utf8 (compileChars path)) r = true ↔
      ∃ x y, r = x ++ y ++ utf8 b ∧ List.Forall₂ Faces (pieces '/' a) (pieces 47 x) := by
  have ht : PathToken.ofChars path = PathToken.ofChars a ++ anyText :: b.map literal := by
    rw [hp, ofChars_append_anyOperator, ofChars_of_not_mem hb]
  rw [finds_iff_coversAll hc (by simp [ht, ha.not_mem.2]), ht, coversAll_append]
  constructor
  · rintro ⟨x, _, rfl, hx, y, z, rfl, -, hz⟩
    rw [coversAll_literals] at hz
    subst hz
    exact ⟨x, y, (List.append_assoc x y _).symm, (coversAll_iff_forall₂ ha x).1 hx⟩
  · rintro ⟨x, y, rfl, hx⟩
    exact ⟨x, y ++ utf8 b, List.append_assoc x y _, (coversAll_iff_forall₂ ha x).2 hx, y, utf8 b,
      rfl, trivial, (coversAll_literals b _).2 rfl⟩

end

/-- **What accepted paths match.**  A path that does not start with `^` and is accepted is of one of
four kinds.  A path without a star matches itself; a path that ends in a bare star matches what
starts with the rest; a template without `{**}` matches part by part; and around `{**}`, what stands
before it matches part by part and what stands behind it matches itself. -/
theorem finds_compile_iff {p : String} (h : check p = .ok ()) (hc : p.toList.head? ≠ some '^')
    (r : List UInt8) :
    ('*' ∉ p.toList → (finds (textBytes (compile p)) r = true ↔ r = textBytes p)) ∧
    (∀ q, p.toList = q ++ ['*'] →
      (finds (textBytes (compile p)) r = true ↔ utf8 q <+: r)) ∧
    (oneOperator <:+: p.toList → ¬ anyOperator <:+: p.toList →
      (finds (textBytes (compile p)) r = true ↔
        List.Forall₂ Faces (pieces '/' p.toList) (pieces 47 r))) ∧
    (∀ a b, p.toList = a ++ anyOperator ++ b →
      (finds (textBytes (compile p)) r = true ↔
        ∃ x y, r = x ++ y ++ utf8 b ∧ List.Forall₂ Faces (pieces '/' a) (pieces 47 x))) ∧
    ('*' ∉ p.toList ∨ (∃ q, p.toList = q ++ ['*']) ∨
      (oneOperator <:+: p.toList ∧ ¬ anyOperator <:+: p.toList) ∨
      ∃ a b, p.toList = a ++ anyOperator ++ b) := by
  rw [textBytes_compile]
  have hshape := hasShape_of_checkChars h hc
  refine ⟨finds_plain hc r, fun q hp => ?_, fun h1 h2 => ?_, fun a b hp => ?_, hshape.kinds⟩
  · rw [hp] at hshape
    exact finds_star hc r hp hshape.not_mem_of_append_star
  · exact finds_pieces hc r (hshape.isPieced h1 h2)
  · rw [hp] at hshape
    obtain ⟨ha, hb⟩ := hshape.isPieced_of_append_anyOperator
    exact finds_any hc r hp ha hb

/-- One segment and then any text, behind a character that means something in a pattern. -/
theorem finds_compile_any_text :
    check "/a.b/\x7b*\x7d/\x7b**\x7d" = .ok () ∧
      "/a.b/\x7b*\x7d/\x7b**\x7d".toList.head? ≠ some '^' ∧
      finds (textBytes (compile "/a.b/\x7b*\x7d/\x7b**\x7d")) (textBytes "/a.b/c/d/e") = true := by
  have h : check "/a.b/\x7b*\x7d/\x7b**\x7d" = .ok () := by decide +kernel
  have hc : "/a.b/\x7b*\x7d/\x7b**\x7d".toList.head? ≠ some '^' := by decide +kernel
  have hp : "/a.b/\x7b*\x7d/\x7b**\x7d".toList =
      "/a.b/\x7b*\x7d/".toList ++ anyOperator ++ [] := by
    decide +kernel
  refine ⟨h, hc, ((finds_compile_iff h hc _).2.2.2.1 _ _ hp).2 ?_⟩
  exact ⟨textBytes "/a.b/c/", textBytes "d/e", by decide +kernel, by decide +kernel⟩

/-! ## Every path -/

/-- Does something at the start of these bytes stand for the tokens of a path?  A dollar sign at the
end of the path is no token, and asks for all of the bytes. -/
def CoversStart (path : List Char) (s : List UInt8) : Prop :=
  if path.getLast? = some '$' then CoversAll (PathToken.ofChars path.dropLast) s
  else ∃ x y, s = x ++ y ∧ CoversAll (PathToken.ofChars path) x

/-- Do these bytes match a path, whether it is accepted or not? -/
def Means (path : List Char) (s : List UInt8) : Prop :=
  if path.head? = some '^' then CoversStart path.tail s
  else if bareStar ∈ PathToken.ofChars path then CoversStart path s
  else CoversAll (PathToken.ofChars path) s

theorem ofChars_append_dollar (front : List Char) :
    PathToken.ofChars (front ++ ['$']) = PathToken.ofChars front ++ [literal '$'] := by
  rw [ofChars_append_cons (by decide) (by decide)]
  rfl

/-- The last token is a dollar sign only where the last character is one. -/
theorem getLast?_eq_of_ofChars {path : List Char}
    (h : (PathToken.ofChars path).getLast? = some (literal '$')) : path.getLast? = some '$' := by
  obtain ⟨tokens, ht⟩ := List.getLast?_eq_some_iff.1 h
  rw [← flatMap_text_ofChars path, ht, List.flatMap_append]
  exact List.getLast?_concat

/-- What a pattern finds whose last token is all that may bind it to the end of the subject. -/
theorem finds_iff_coversStart {path rest : List Char}
    (h : patternTokens path = PathToken.ofChars rest) (s : List UInt8) :
    finds (utf8 (compileChars path)) s = true ↔ CoversStart rest s := by
  unfold CoversStart
  by_cases hd : rest.getLast? = some '$'
  · obtain ⟨front, rfl⟩ := List.getLast?_eq_some_iff.1 hd
    rw [if_pos hd, List.dropLast_concat]
    exact finds_bound_iff (h.trans (ofChars_append_dollar front)) s
  · rw [if_neg hd, ← h]
    refine finds_open_iff (fun hl => hd ?_) s
    rw [h] at hl
    exact getLast?_eq_of_ofChars hl

/-- **Every path has a meaning.**  Its compiled form is a pattern, which matches what the path
means: all of a subject where nothing opens it, and the start of one behind a caret or with a bare
star. -/
theorem compile_means (path : String) :
    (Pattern.ofBytes? (textBytes (compile path))).isSome = true ∧
      ∀ s, finds (textBytes (compile path)) s = true ↔ Means path.toList s := by
  rw [textBytes_compile]
  generalize path.toList = path
  refine ⟨by rw [ofBytes?_compileChars]; rfl, fun s => ?_⟩
  unfold Means
  by_cases hc : path.head? = some '^'
  · rw [if_pos hc]
    obtain ⟨rest, rfl⟩ := List.head?_eq_some_iff.1 hc
    apply finds_iff_coversStart
    rw [patternTokens, if_pos hc, ofChars_cons_caret]
    rfl
  · rw [if_neg hc]
    by_cases hs : bareStar ∈ PathToken.ofChars path
    · rw [if_pos hs]
      apply finds_iff_coversStart
      rw [patternTokens, if_neg hc, if_pos hs]
    · rw [if_neg hs]
      exact finds_iff_coversAll hc hs s

end LoginGate.Access
