import Mathlib.Data.List.Induction
import LoginGate.Proofs.Access.PathShape

/-!
# Paths that match themselves

The tokens of any path cover the path itself, so a path that does not start with `^` matches itself
unless a dollar sign at its end turns into an anchor.  That happens behind a bare star only, and it
does harm only where the dollar signs at the end stand behind a literal:

    finds (utf8 (compileChars path)) (utf8 path) = true ↔ ¬ MissesItself path    (finds_self_iff)
-/

namespace LoginGate.Access

open LoginGate.Text LoginGate.Lua PathToken

namespace PathToken

/-- An operator stands for its own text, with or without a dollar sign behind it. -/
theorem covers_text (t : PathToken) : t.Covers (utf8 t.text) := by
  cases t with
  | anyText => trivial
  | oneSegment => exact ⟨by decide, by decide⟩
  | bareStar => trivial
  | literal c => exact List.append_nil _

theorem covers_text_dollar {t : PathToken} (h : ∀ c, t ≠ literal c) :
    t.Covers (utf8 t.text ++ [36]) := by
  cases t with
  | anyText => trivial
  | oneSegment => exact ⟨by decide, by decide⟩
  | bareStar => trivial
  | literal c => exact absurd rfl (h c)

theorem coversAll_text (tokens : List PathToken) :
    CoversAll tokens (utf8 (tokens.flatMap text)) := by
  induction tokens with
  | nil => rfl
  | cons t tokens ih =>
    rw [List.flatMap_cons, utf8_append]
    exact ⟨_, _, rfl, covers_text t, ih⟩

theorem mem_of_coversAll {tokens : List PathToken} {c : Char} {s : List UInt8}
    (hc : literal c ∈ tokens) (h : CoversAll tokens s) {b : UInt8}
    (hb : b ∈ String.utf8EncodeChar c) : b ∈ s := by
  obtain ⟨one, other, rfl⟩ := List.append_of_mem hc
  obtain ⟨x, _, rfl, -, y, z, rfl, hy, -⟩ := (coversAll_append _ _ _).1 h
  rw [Covers] at hy
  rw [hy]
  exact List.mem_append_right _ (List.mem_append_left _ hb)

/-- Behind the last token that is not a dollar sign stand dollar signs only. -/
theorem exists_last_ne_dollar {tokens : List PathToken} {t : PathToken} (ht : t ∈ tokens)
    (hne : t ≠ literal '$') : ∃ front last n, last ≠ literal '$' ∧
      tokens = front ++ last :: (List.replicate n '$').map literal := by
  induction tokens using List.reverseRecOn with
  | nil => cases ht
  | append_singleton tokens u ih =>
    by_cases hu : u = literal '$'
    · have ht : t ∈ tokens := by
        rcases List.mem_append.1 ht with ht | ht
        · exact ht
        · exact absurd ((List.mem_singleton.1 ht).trans hu) hne
      obtain ⟨front, last, n, hl, rfl⟩ := ih ht
      refine ⟨front, last, n + 1, hl, ?_⟩
      rw [List.replicate_succ', List.map_append, hu, List.append_assoc, List.cons_append]
      rfl
    · exact ⟨tokens, u, 0, hu, rfl⟩

/-- Are the dollar signs at the end, if any, behind a literal? -/
def EndsPlain (tokens : List PathToken) : Prop :=
  ∃ front c n, c ≠ '$' ∧ tokens = front ++ literal c :: (List.replicate n '$').map literal

theorem flatMap_text_literals (l : List Char) : (l.map literal).flatMap text = l := by
  rw [List.flatMap_map]
  exact List.flatMap_singleton' l

theorem utf8_dollars (n : Nat) :
    utf8 (List.replicate n '$') ++ [36] = [36] ++ utf8 (List.replicate n '$') := by
  show utf8 (List.replicate n '$') ++ utf8 ['$'] = utf8 ['$'] ++ utf8 (List.replicate n '$')
  rw [← utf8_append, ← utf8_append, ← List.replicate_succ', List.singleton_append]
  rfl

/-- Behind a literal, dollar signs do not cover one more of them. -/
theorem EndsPlain.not_coversAll {tokens : List PathToken} (h : EndsPlain tokens) :
    ¬ CoversAll tokens (utf8 (tokens.flatMap text) ++ [36]) := by
  obtain ⟨front, c, n, hc, rfl⟩ := h
  intro h
  obtain ⟨x, y, he, -, hy⟩ := (coversAll_append _ _ _).1 h
  rw [← List.map_cons, coversAll_literals] at hy
  rw [List.flatMap_append, ← List.map_cons, flatMap_text_literals, utf8_append, utf8_cons, hy,
    utf8_cons, List.append_assoc, List.append_assoc, utf8_dollars] at he
  simp only [← List.append_assoc] at he
  -- what is left of both sides ends in the literal and in a dollar sign
  have hl := congrArg List.getLast? (List.append_cancel_right he)
  have hne := utf8EncodeChar_ne_nil c
  rw [List.getLast?_concat, List.getLast?_append, List.getLast?_eq_some_getLast hne,
    Option.some_or] at hl
  have hm := List.getLast_mem hne
  rw [← Option.some.inj hl] at hm
  exact hc (eq_of_mem_utf8EncodeChar (d := '$') (by decide) hm)

/-- An operator in front of the dollar signs covers one more of them. -/
theorem coversAll_text_dollar_iff {tokens : List PathToken} {t : PathToken} (ht : t ∈ tokens)
    (hne : t ≠ literal '$') :
    CoversAll tokens (utf8 (tokens.flatMap text) ++ [36]) ↔ ¬ EndsPlain tokens := by
  refine ⟨fun h hp => hp.not_coversAll h, fun h => ?_⟩
  obtain ⟨front, last, n, hlast, rfl⟩ := exists_last_ne_dollar ht hne
  have hop : ∀ c, last ≠ literal c := by
    rintro c rfl
    exact h ⟨front, c, n, fun he => hlast (he ▸ rfl), rfl⟩
  refine (coversAll_append _ _ _).2 ⟨_, _, ?_, coversAll_text front,
    utf8 last.text ++ [36], utf8 (List.replicate n '$'), rfl, covers_text_dollar hop,
    (coversAll_literals _ _).2 rfl⟩
  rw [List.flatMap_append, List.flatMap_cons, flatMap_text_literals, utf8_append, utf8_append,
    List.append_assoc, List.append_assoc, List.append_assoc, utf8_dollars]

end PathToken

/-- A path does not match itself when it has a bare star and its last character is a dollar sign,
with a literal before the dollar signs at its end: the last one becomes an anchor, and nothing is
left to match it. -/
def MissesItself (path : List Char) : Prop :=
  bareStar ∈ PathToken.ofChars path ∧
    ∃ tokens, PathToken.ofChars path = tokens ++ [literal '$'] ∧ EndsPlain tokens

section

variable {path : List Char} (hp : path.head? = some '/')

include hp

/-- **Which paths match themselves.** -/
theorem finds_self_iff :
    finds (utf8 (compileChars path)) (utf8 path) = true ↔ ¬ MissesItself path := by
  have hc := head?_ne_caret hp
  have hself : CoversAll (PathToken.ofChars path) (utf8 path) := by
    have := coversAll_text (PathToken.ofChars path)
    rwa [flatMap_text_ofChars] at this
  by_cases hs : bareStar ∈ PathToken.ofChars path
  case neg =>
    rw [finds_iff_coversAll hc hs]
    exact iff_of_true hself fun hm => hs hm.1
  by_cases hd : (PathToken.ofChars path).getLast? = some (literal '$')
  case neg =>
    rw [finds_bareStar_iff hc hs hd]
    refine iff_of_true ⟨_, [], (List.append_nil _).symm, hself⟩ ?_
    rintro ⟨-, tokens, ht, -⟩
    apply hd
    rw [ht, List.getLast?_concat]
  -- the last token is an anchor, and the others have to cover the whole path
  obtain ⟨tokens, ht⟩ := List.getLast?_eq_some_iff.1 hd
  have hpt : patternTokens path = tokens ++ [literal '$'] := by
    rw [patternTokens, if_neg hc, if_pos hs, ht]
  have hst : bareStar ∈ tokens := by
    rw [ht] at hs
    simpa using hs
  have htext : utf8 path = utf8 (tokens.flatMap text) ++ [36] := by
    rw [← flatMap_text_ofChars path, ht, List.flatMap_append, utf8_append]
    rfl
  rw [finds_bound_iff hpt, htext, coversAll_text_dollar_iff hst (by decide)]
  refine not_congr ⟨fun h => ⟨hs, tokens, ht, h⟩, ?_⟩
  rintro ⟨-, other, ho, h⟩
  rwa [List.append_cancel_right (ht.symm.trans ho)]

/-- A path with a literal question mark matches only what has one. -/
theorem mem_of_finds {s : List UInt8} (hm : '?' ∈ path)
    (h : finds (utf8 (compileChars path)) s = true) : 63 ∈ s := by
  have hc := head?_ne_caret hp
  have hlit : literal '?' ∈ PathToken.ofChars path := by
    rw [← flatMap_text_ofChars path] at hm
    obtain ⟨t, ht, hm⟩ := List.mem_flatMap.1 hm
    cases t with
    | anyText => exact absurd hm (by decide)
    | oneSegment => exact absurd hm (by decide)
    | bareStar => exact absurd hm (by decide)
    | literal c => rwa [List.mem_singleton.1 hm]
  have hpat : literal '?' ∈ patternTokens path := by
    rw [patternTokens, if_neg hc]
    split
    · exact hlit
    · exact List.mem_append_left _ hlit
  by_cases hd : (patternTokens path).getLast? = some (literal '$')
  · obtain ⟨tokens, ht⟩ := List.getLast?_eq_some_iff.1 hd
    rw [ht] at hpat
    exact mem_of_coversAll (by simpa using hpat) ((finds_bound_iff ht s).1 h) (by decide)
  · obtain ⟨x, y, rfl, hx⟩ := (finds_open_iff hd s).1 h
    exact List.mem_append_left _ (mem_of_coversAll hpat hx (by decide))

end

end LoginGate.Access
