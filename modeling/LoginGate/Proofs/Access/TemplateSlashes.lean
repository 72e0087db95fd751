import Mathlib.Data.List.Chain
import LoginGate.Proofs.Access.PathAcceptance

/-!
# Slashes of accepted templates

The slashes at the ends of a path are cut off before its segments are checked, all of them, so that
a template has no empty segment inside, and may have any number of them at its ends:

    check path = .ok () → … → (∀ s ∈ segments path.toList, s ≠ []) ∧ (['/', '/'] <:+: path.toList ↔
      ['/', '/'] <+: path.toList ∨ ['/', '/'] <:+ path.toList) ∧ …        (template_slashes)
-/

namespace LoginGate.Access

open LoginGate.Text

def SlashesApart (c d : Char) : Prop := c = '/' → d ≠ '/'

theorem isChain_slashesApart_iff (s : List Char) :
    s.IsChain SlashesApart ↔ ¬ ['/', '/'] <:+: s := by
  rw [List.isChain_iff_forall_rel_of_append_cons_cons]
  constructor
  · rintro h ⟨a, b, rfl⟩
    exact h (List.append_assoc a ['/', '/'] b) rfl rfl
  · rintro h c d a b rfl rfl rfl
    exact h ⟨a, b, List.append_assoc a ['/', '/'] b⟩

theorem isChain_of_slash_not_mem {s : List Char} (h : '/' ∉ s) : s.IsChain SlashesApart := by
  rw [isChain_slashesApart_iff]
  intro hs
  exact h (hs.subset List.mem_cons_self)

/-- Segments that are not empty keep the slashes between them apart. -/
theorem isChain_join {ps : List (List Char)} (hne : ∀ p ∈ ps, p ≠ []) (hs : ∀ p ∈ ps, '/' ∉ p) :
    (join ['/'] ps).IsChain SlashesApart := by
  induction ps with
  | nil => exact List.isChain_nil
  | cons p ps ih =>
    have hp := isChain_of_slash_not_mem (hs p List.mem_cons_self)
    have hrest := ih (fun q hq => hne q (List.mem_cons_of_mem p hq))
      fun q hq => hs q (List.mem_cons_of_mem p hq)
    by_cases hn : ps = []
    · rw [hn]
      exact hp
    rw [join_cons_of_ne_nil _ _ hn, List.append_assoc, List.singleton_append, List.isChain_append]
    refine ⟨hp, ?_, ?_⟩
    · -- the segment behind the slash starts with a character of its own
      obtain ⟨q, qs, rfl⟩ := List.exists_cons_of_ne_nil hn
      obtain ⟨c, u, hq⟩ := List.exists_cons_of_ne_nil (hne q (by simp))
      obtain ⟨r, hr⟩ := exists_join_cons ['/'] q qs
      have hc : c ≠ '/' := by
        rintro rfl
        exact hs q (by simp) (hq ▸ List.mem_cons_self)
      rw [hr, hq, List.cons_append] at hrest ⊢
      exact List.isChain_cons_cons.2 ⟨fun _ => hc, hrest⟩
    · rintro c hc _ - rfl
      exact absurd (List.mem_of_getLast? hc) (hs p List.mem_cons_self)

section

variable {ts : List TemplateSegment} (hw : ∀ t ∈ ts, t.WellFormed) (hne : ts ≠ [])

include hw hne

theorem isChain_template {trail : Nat} (ht : trail ≤ 1) :
    ('/' :: (join ['/'] (ts.map TemplateSegment.text) ++ List.replicate trail '/')).IsChain
      SlashesApart := by
  have hj : (join ['/'] (ts.map TemplateSegment.text)).IsChain SlashesApart := by
    refine isChain_join ?_ (slash_not_mem_map_text hw)
    intro s hs
    obtain ⟨t, ht, rfl⟩ := List.mem_map.1 hs
    exact TemplateSegment.text_ne_nil (hw t ht)
  obtain ⟨c, s, hcons, hc⟩ := join_text_eq_cons hw hne
  obtain ⟨u, d, hconcat, hd⟩ := join_text_eq_concat hw hne
  have hright : (join ['/'] (ts.map TemplateSegment.text) ++ List.replicate trail '/').IsChain
      SlashesApart := by
    refine List.isChain_append.2 ⟨hj, ?_, ?_⟩
    · rcases Nat.le_one_iff_eq_zero_or_eq_one.1 ht with rfl | rfl
      · exact List.isChain_nil
      · exact List.isChain_singleton _
    · rintro e he _ - rfl
      rw [hconcat, List.getLast?_concat, Option.mem_some_iff] at he
      exact absurd he hd
  rw [hcons, List.cons_append] at hright ⊢
  exact List.isChain_cons_cons.2 ⟨fun _ => hc, hright⟩

end

/-- Two slashes stand side by side in a template at its ends only. -/
theorem IsTemplatePath.adjacent_slashes_iff {path : List Char} (h : IsTemplatePath path) :
    ['/', '/'] <:+: path ↔ ['/', '/'] <+: path ∨ ['/', '/'] <:+ path := by
  refine ⟨fun hs => ?_, fun hs => hs.elim List.IsPrefix.isInfix List.IsSuffix.isInfix⟩
  obtain ⟨ts, lead, trail, hlead, rfl, hw, ⟨t, ht, -⟩, -⟩ := h
  by_contra hn
  rw [not_or] at hn
  have hl : lead = 1 := by
    by_contra hl
    obtain ⟨n, rfl⟩ : ∃ n, lead = n + 2 := ⟨lead - 2, by omega⟩
    exact hn.1 ⟨_, rfl⟩
  have hr : trail ≤ 1 := by
    by_contra hr
    obtain ⟨n, rfl⟩ : ∃ n, trail = n + 2 := ⟨trail - 2, by omega⟩
    refine hn.2 ?_
    rw [List.replicate_add]
    exact ⟨_, List.append_assoc _ _ _⟩
  rw [hl, List.append_assoc, intercalate_eq_join] at hs
  exact (isChain_slashesApart_iff _).1 (isChain_template hw (List.ne_nil_of_mem ht) hr) hs

/-- Slashes at the ends of a template make another template. -/
theorem IsTemplatePath.slashes {path : List Char} (h : IsTemplatePath path) (n m : Nat) :
    IsTemplatePath (List.replicate n '/' ++ path ++ List.replicate m '/') := by
  obtain ⟨ts, lead, trail, hlead, rfl, hw, hop, hp⟩ := h
  refine ⟨ts, n + lead, trail + m, by omega, ?_, hw, hop, hp⟩
  simp only [List.replicate_add, List.append_assoc]

theorem IsTemplatePath.segments_ne_nil {path : List Char} (h : IsTemplatePath path) :
    ∀ s ∈ segments path, s ≠ [] := by
  obtain ⟨ts, lead, trail, -, rfl, hw, ⟨t, ht, -⟩, -⟩ := h
  rw [segments_template hw (List.ne_nil_of_mem ht)]
  intro s hs
  obtain ⟨t, ht, rfl⟩ := List.mem_map.1 hs
  exact TemplateSegment.text_ne_nil (hw t ht)

theorem isTemplatePath_of_check {path : String} (h : check path = .ok ())
    (hc : path.toList.head? ≠ some '^')
    (ho : oneOperator <:+: path.toList ∨ anyOperator <:+: path.toList) :
    IsTemplatePath path.toList := by
  have hb : path.toList.any isBrace = true := by
    refine List.any_eq_true.2 ⟨'\x7b', ?_, by decide⟩
    rcases ho with ho | ho <;> exact ho.subset List.mem_cons_self
  have hslash := ((check_eq_ok_iff path).1 h).head?.resolve_left hc
  exact (checkChars_brace_iff hslash hb).1 h

/-- **Empty segments of templates.**  An accepted template has none inside, but any number of them
at its ends: two of its slashes stand side by side exactly where it starts or ends with two, and
with more slashes at its ends it is accepted again. -/
theorem template_slashes {path : String} (h : check path = .ok ())
    (hc : path.toList.head? ≠ some '^')
    (ho : oneOperator <:+: path.toList ∨ anyOperator <:+: path.toList) :
    path.toList.head? = some '/' ∧
      (∀ s ∈ segments path.toList, s ≠ []) ∧
      (['/', '/'] <:+: path.toList ↔ ['/', '/'] <+: path.toList ∨ ['/', '/'] <:+ path.toList) ∧
      ∀ n m, check (String.ofList
        (List.replicate n '/' ++ path.toList ++ List.replicate m '/')) = .ok () := by
  have ht := isTemplatePath_of_check h hc ho
  refine ⟨ht.head?, ht.segments_ne_nil, ht.adjacent_slashes_iff, fun n m => ?_⟩
  rw [check_eq_ok_iff, String.toList_ofList]
  exact Or.inr (Or.inr (Or.inr (ht.slashes n m)))

/-- A template with an empty segment at its start is accepted. -/
theorem template_slashes_lead :
    check "//\x7b*\x7d" = .ok () ∧ ['/', '/'] <:+: "//\x7b*\x7d".toList := by
  have hcheck : check "//\x7b*\x7d" = .ok () := rfl
  have h := template_slashes hcheck (by decide) (Or.inl ⟨['/', '/'], [], rfl⟩)
  exact ⟨h.2.2.2 0 0, h.2.2.1.2 (Or.inl ⟨oneOperator, rfl⟩)⟩

end LoginGate.Access
