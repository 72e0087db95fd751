import Mathlib.Data.List.Basic
import Mathlib.Data.List.TakeWhile
import LoginGate.Proofs.Access.PathShape
import LoginGate.Proofs.Checks

/-!
# Which paths are accepted

`IsAccepted` says without any scanning what an accepted path looks like: it starts with `^`, or it
is a plain path, or a plain path with one `*` behind it, or a template.  A template is written as
its segments between single slashes, with any slashes around them, and `MayPrecede` says which
segments may stand behind which:

    check path = .ok () ↔ IsAccepted path.toList                                 (check_eq_ok_iff)

The scan of the segments carries two flags; they stand for the operators before it
(`checkSegments_eq_ok_iff`).
-/

namespace LoginGate.Access

open LoginGate.Text

/-! ## The grammar -/

def literalAlphabet : List Char :=
  "ABCDEFGHIJKLMNOPQRSTUVWXYZabcdefghijklmnopqrstuvwxyz0123456789-._~%!$&'()+,;:@=".toList

inductive TemplateSegment where
  | one
  | any
  | literal (s : List Char)
  | literalAny (s : List Char)
  deriving DecidableEq, Repr

namespace TemplateSegment

def text : TemplateSegment → List Char
  | one => ['\x7b', '*', '\x7d']
  | any => ['\x7b', '*', '*', '\x7d']
  | literal s => s
  | literalAny s => s ++ ['\x7b', '*', '*', '\x7d']

/-- Literals have a character, and all their characters are in the alphabet. -/
def WellFormed : TemplateSegment → Prop
  | one => True
  | any => True
  | literal s => s ≠ [] ∧ ∀ c ∈ s, c ∈ literalAlphabet
  | literalAny s => s ≠ [] ∧ ∀ c ∈ s, c ∈ literalAlphabet

def IsLiteral : TemplateSegment → Prop
  | literal _ => True
  | _ => False

/-- May the second segment stand anywhere behind the first?  Behind `{**}` there are literals only,
a literal with `{**}` comes last, and it does not come behind another operator. -/
def MayPrecede : TemplateSegment → TemplateSegment → Prop
  | literal _, _ => True
  | one, t => ∀ s, t ≠ literalAny s
  | any, t => t.IsLiteral
  | literalAny _, _ => False

end TemplateSegment

/-- A slash, and then slashes and characters of literals. -/
def IsPlainPath (path : List Char) : Prop :=
  ∃ rest, path = '/' :: rest ∧ ∀ c ∈ rest, c = '/' ∨ c ∈ literalAlphabet

/-- Segments with an operator among them, with one slash between each two, at least one slash in
front and any number of slashes behind. -/
def IsTemplatePath (path : List Char) : Prop :=
  ∃ (segments : List TemplateSegment) (lead trail : Nat), 0 < lead ∧
    path = List.replicate lead '/' ++ ['/'].intercalate (segments.map TemplateSegment.text) ++
      List.replicate trail '/' ∧
    (∀ s ∈ segments, s.WellFormed) ∧ (∃ s ∈ segments, ¬ s.IsLiteral) ∧
    segments.Pairwise TemplateSegment.MayPrecede

/-- What is accepted as a path. -/
def IsAccepted (path : List Char) : Prop :=
  path.head? = some '^' ∨ IsPlainPath path ∨ (∃ q, IsPlainPath q ∧ path = q ++ ['*']) ∨
    IsTemplatePath path

/-! ## Literals -/

theorem toNat_lt_of_isSegmentChar {c : Char} (h : isSegmentChar c = true) : c.toNat < 128 := by
  simp only [isSegmentChar, Bool.or_eq_true, Bool.and_eq_true, decide_eq_true_eq, List.mem_cons,
    List.not_mem_nil, or_false] at h
  rcases h with ((h | h) | h) | h
  · omega
  · omega
  · omega
  · rcases h with h | h | h | h | h | h | h | h | h | h | h | h | h | h | h | h | h <;>
      subst h <;> decide

theorem literalAlphabet_eq : literalAlphabet =
    ['A', 'B', 'C', 'D', 'E', 'F', 'G', 'H', 'I', 'J', 'K', 'L', 'M', 'N', 'O', 'P', 'Q', 'R', 'S',
      'T', 'U', 'V', 'W', 'X', 'Y', 'Z', 'a', 'b', 'c', 'd', 'e', 'f', 'g', 'h', 'i', 'j', 'k', 'l',
      'm', 'n', 'o', 'p', 'q', 'r', 's', 't', 'u', 'v', 'w', 'x', 'y', 'z', '0', '1', '2', '3', '4',
      '5', '6', '7', '8', '9', '-', '.', '_', '~', '%', '!', '$', '&', '\'', '(', ')', '+', ',',
      ';', ':', '@', '='] :=
  String.toList_ofList

theorem isSegmentChar_iff (c : Char) : isSegmentChar c = true ↔ c ∈ literalAlphabet := by
  have hlow : ∀ n < 128, isSegmentChar (Char.ofNat n) = true → Char.ofNat n ∈ literalAlphabet := by
    rw [literalAlphabet_eq]
    decide +kernel
  have hall : literalAlphabet.all isSegmentChar = true := by
    rw [literalAlphabet_eq]
    decide +kernel
  refine ⟨fun h => ?_, List.all_eq_true.1 hall c⟩
  have := hlow c.toNat (toNat_lt_of_isSegmentChar h)
  rw [Char.ofNat_toNat] at this
  exact this h

theorem not_mem_literalAlphabet {c : Char} (h : isSegmentChar c = false) : c ∉ literalAlphabet := by
  rw [← isSegmentChar_iff, h]
  exact Bool.false_ne_true

theorem checkLiteral_eq_ok_iff (segment literal : List Char) :
    checkLiteral segment literal = .ok () ↔
      literal ≠ [] ∧ ∀ c ∈ literal, c ∈ literalAlphabet := by
  have hiff : (!literal.isEmpty && literal.all isSegmentChar) = true ↔
      literal ≠ [] ∧ ∀ c ∈ literal, c ∈ literalAlphabet := by
    simp [isSegmentChar_iff]
  rw [← hiff, checkLiteral]
  split
  · next h => exact iff_of_true rfl h
  · next h => exact iff_of_false (fun he => by cases he) h

/-- The segments are the pieces between the slashes at the ends, but for no piece at all. -/
theorem segments_eq (path : List Char) : segments path =
    if stripWhile (· == '/') path = [] then [] else pieces '/' (stripWhile (· == '/') path) := by
  unfold segments
  split
  · next h => rw [if_pos h]
  · next h => rw [if_neg fun he => h he]

/-- A character other than a slash stands in a segment. -/
theorem mem_segments_iff (path : List Char) (c : Char) :
    (∃ s ∈ segments path, c ∈ s) ↔ c ∈ path ∧ c ≠ '/' := by
  have hslashes {s : List Char} (hs : s.all (· == '/') = true) (hc : c ∈ s) : c = '/' :=
    eq_of_beq (List.all_eq_true.1 hs c hc)
  obtain ⟨l, r, hp, hl, hr⟩ := exists_eq_append_stripWhile (· == '/') path
  rw [segments_eq]
  generalize stripWhile (· == '/') path = inner at hp
  constructor
  · rintro ⟨s, hs, hc⟩
    split at hs
    · cases hs
    · have hmem := mem_of_mem_pieces hs hc
      refine ⟨by rw [hp]; simp [hmem], ?_⟩
      rintro rfl
      exact not_mem_of_mem_pieces '/' inner s hs hc
  · rintro ⟨hc, hne⟩
    rw [hp, List.mem_append, List.mem_append] at hc
    rcases hc with (hc | hc) | hc
    · exact absurd (hslashes hl hc) hne
    · rw [if_neg (List.ne_nil_of_mem hc)]
      exact exists_mem_pieces hc hne
    · exact absurd (hslashes hr hc) hne

theorem checkLiterals_eq_ok_iff (path : List Char) :
    checkLiterals path = .ok () ↔ ∀ c ∈ path, c = '/' ∨ c ∈ literalAlphabet := by
  rw [checkLiterals, forM_eq_ok_iff]
  simp only [List.mem_filter, checkLiteral_eq_ok_iff]
  constructor
  · intro h c hc
    by_cases hslash : c = '/'
    · exact Or.inl hslash
    · obtain ⟨s, hs, hcs⟩ := (mem_segments_iff path c).2 ⟨hc, hslash⟩
      have hne : (!s.isEmpty) = true := by simpa using List.ne_nil_of_mem hcs
      exact Or.inr ((h s ⟨hs, hne⟩).2 c hcs)
  · rintro h s ⟨hs, hne⟩
    refine ⟨by simpa using hne, fun c hc => ?_⟩
    obtain ⟨hp, hslash⟩ := (mem_segments_iff path c).1 ⟨s, hs, hc⟩
    exact (h c hp).resolve_left hslash

/-! ## The scan of segments -/

theorem any_isBrace_eq_false {s : List Char} (h : ∀ c ∈ s, c ∈ literalAlphabet) :
    s.any isBrace = false := by
  rw [List.any_eq_false]
  intro c hc hbrace
  have hseg := (isSegmentChar_iff c).2 (h c hc)
  simp only [isBrace, Bool.or_eq_true, decide_eq_true_eq] at hbrace
  rcases hbrace with rfl | rfl
  · exact absurd hseg (by decide)
  · exact absurd hseg (by decide)

section

variable {sawOne sawAny : Bool} {rest : List (List Char)}

theorem checkSegments_one : checkSegments sawOne sawAny (oneOperator :: rest) = .ok () ↔
    sawAny = false ∧ checkSegments true sawAny rest = .ok () := by
  rw [checkSegments, if_pos rfl]
  cases sawAny with
  | true => exact iff_of_false (fun h => by cases h) fun h => by cases h.1
  | false => exact (and_iff_right rfl).symm

theorem checkSegments_any : checkSegments sawOne sawAny (anyOperator :: rest) = .ok () ↔
    sawAny = false ∧ checkSegments sawOne true rest = .ok () := by
  rw [checkSegments, if_neg (by decide), if_pos rfl]
  cases sawAny with
  | true => exact iff_of_false (fun h => by cases h) fun h => by cases h.1
  | false => exact (and_iff_right rfl).symm

theorem checkSegments_literal {s : List Char} (hne : s ≠ []) (hs : ∀ c ∈ s, c ∈ literalAlphabet) :
    checkSegments sawOne sawAny (s :: rest) = checkSegments sawOne sawAny rest := by
  have hbrace := any_isBrace_eq_false hs
  have hbraced : ∀ r t : List Char, '\x7b' ∈ t → s ≠ r ++ t := by
    rintro r t ht rfl
    rw [List.any_append, Bool.or_eq_false_iff] at hbrace
    exact List.any_eq_false.1 hbrace.2 _ ht rfl
  have h1 : s ≠ oneOperator := hbraced [] oneOperator (by decide)
  have h2 : s ≠ anyOperator := hbraced [] anyOperator (by decide)
  have hdrop : dropSuffix? anyOperator s = none := by
    cases hd : dropSuffix? anyOperator s with
    | none => rfl
    | some r => exact absurd (eq_append_of_dropSuffix? hd) (hbraced r _ (by decide))
  rw [checkSegments, if_neg h1, if_neg h2, hdrop]
  simp only [hbrace, (checkLiteral_eq_ok_iff s s).2 ⟨hne, hs⟩]
  rfl

theorem checkSegments_literalAny {s : List Char} (hne : s ≠ [])
    (hs : ∀ c ∈ s, c ∈ literalAlphabet) :
    checkSegments sawOne sawAny ((s ++ anyOperator) :: rest) = .ok () ↔
      rest = [] ∧ sawOne = false ∧ sawAny = false := by
  have hlength := List.length_pos_iff.2 hne
  have hbrace := any_isBrace_eq_false hs
  have h1 : s ++ anyOperator ≠ oneOperator := by
    intro he
    have := congrArg List.length he
    simp [anyOperator, oneOperator] at this
  have h2 : s ++ anyOperator ≠ anyOperator := by simpa using hne
  rw [checkSegments, if_neg h1, if_neg h2, dropSuffix?_append]
  simp only [hbrace, (checkLiteral_eq_ok_iff (s ++ anyOperator) s).2 ⟨hne, hs⟩]
  cases rest with
  | cons t rest => exact iff_of_false (fun h => by cases h) fun h => by cases h.1
  | nil =>
    cases sawOne with
    | true => exact iff_of_false (fun h => by cases h) fun h => by cases h.2.1
    | false =>
      cases sawAny with
      | true => exact iff_of_false (fun h => by cases h) fun h => by cases h.2.2
      | false => exact iff_of_true rfl ⟨rfl, rfl, rfl⟩

end

/-- May a segment stand behind the operators that the flags of the scan tell of? -/
def Follows (sawOne sawAny : Bool) (t : TemplateSegment) : Prop :=
  (sawOne = true → TemplateSegment.MayPrecede .one t) ∧
    (sawAny = true → TemplateSegment.MayPrecede .any t)

/-- The scan accepts what the grammar writes, if it may also stand behind what came before. -/
theorem checkSegments_eq_ok_iff (sawOne sawAny : Bool) (segs : List (List Char)) :
    checkSegments sawOne sawAny segs = .ok () ↔
      ∃ ts : List TemplateSegment, segs = ts.map TemplateSegment.text ∧
        (∀ t ∈ ts, t.WellFormed) ∧ ts.Pairwise TemplateSegment.MayPrecede ∧
        ∀ t ∈ ts, Follows sawOne sawAny t := by
  constructor
  · intro h
    -- an operator sets its flag for what is behind it, which then follows the operator as well
    induction segs generalizing sawOne sawAny with
    | nil => exact ⟨[], rfl, by simp, .nil, by simp⟩
    | cons s rest ih =>
      rcases checkSegments_cons h with
        ⟨rfl, rfl, hr⟩ | ⟨rfl, rfl, hr⟩ | ⟨l, rfl, hl, rfl, rfl, rfl⟩ | ⟨hl, hr⟩
      · obtain ⟨ts, rfl, hw, hp, hf⟩ := ih _ _ hr
        refine ⟨.one :: ts, rfl, List.forall_mem_cons.2 ⟨trivial, hw⟩,
          List.pairwise_cons.2 ⟨fun t ht => (hf t ht).1 rfl, hp⟩,
          List.forall_mem_cons.2 ⟨?_, fun t ht => ⟨fun _ => (hf t ht).1 rfl, (hf t ht).2⟩⟩⟩
        simp [Follows, TemplateSegment.MayPrecede]
      · obtain ⟨ts, rfl, hw, hp, hf⟩ := ih _ _ hr
        refine ⟨.any :: ts, rfl, List.forall_mem_cons.2 ⟨trivial, hw⟩,
          List.pairwise_cons.2 ⟨fun t ht => (hf t ht).2 rfl, hp⟩,
          List.forall_mem_cons.2 ⟨?_, fun t ht => ⟨(hf t ht).1, fun h => by cases h⟩⟩⟩
        simp [Follows, TemplateSegment.MayPrecede]
      · rw [checkLiteral_eq_ok_iff] at hl
        refine ⟨[.literalAny l], rfl, ?_, List.pairwise_singleton _ _, ?_⟩
        · simpa [TemplateSegment.WellFormed] using hl
        · simp [Follows]
      · rw [checkLiteral_eq_ok_iff] at hl
        obtain ⟨ts, rfl, hw, hp, hf⟩ := ih _ _ hr
        refine ⟨.literal s :: ts, rfl, List.forall_mem_cons.2 ⟨hl, hw⟩,
          List.pairwise_cons.2 ⟨fun _ _ => trivial, hp⟩, List.forall_mem_cons.2 ⟨?_, hf⟩⟩
        simp [Follows, TemplateSegment.MayPrecede, TemplateSegment.IsLiteral]
  · rintro ⟨ts, rfl, hw, hp, hf⟩
    induction ts generalizing sawOne sawAny with
    | nil => rfl
    | cons t ts ih =>
      obtain ⟨hwt, hws⟩ := List.forall_mem_cons.1 hw
      obtain ⟨⟨hone, hany⟩, hfs⟩ := List.forall_mem_cons.1 hf
      obtain ⟨hpt, hps⟩ := List.pairwise_cons.1 hp
      rw [List.map_cons]
      cases t with
      | one =>
        refine checkSegments_one.2 ⟨eq_false_of_ne_true hany, ih _ _ hws hps fun t ht => ?_⟩
        exact ⟨fun _ => hpt t ht, (hfs t ht).2⟩
      | any =>
        refine checkSegments_any.2 ⟨eq_false_of_ne_true hany, ih _ _ hws hps fun t ht => ?_⟩
        exact ⟨(hfs t ht).1, fun _ => hpt t ht⟩
      | literal s =>
        exact (checkSegments_literal hwt.1 hwt.2).trans (ih _ _ hws hps hfs)
      | literalAny s =>
        refine (checkSegments_literalAny hwt.1 hwt.2).2 ⟨?_, ?_, eq_false_of_ne_true hany⟩
        · cases ts with
          | nil => rfl
          | cons u ts => exact (hpt u List.mem_cons_self).elim
        · exact eq_false_of_ne_true fun h => hone h s rfl

/-! ## Templates -/

theorem TemplateSegment.slash_not_mem {t : TemplateSegment} (h : t.WellFormed) : '/' ∉ t.text := by
  have hslash : '/' ∉ literalAlphabet := not_mem_literalAlphabet (by decide)
  cases t with
  | one => decide
  | any => decide
  | literal s => exact fun hm => hslash (h.2 _ hm)
  | literalAny s =>
    intro hm
    rcases List.mem_append.1 hm with hm | hm
    · exact hslash (h.2 _ hm)
    · revert hm
      decide

theorem TemplateSegment.text_ne_nil {t : TemplateSegment} (h : t.WellFormed) : t.text ≠ [] := by
  cases t with
  | one => exact List.cons_ne_nil _ _
  | any => exact List.cons_ne_nil _ _
  | literal s => exact h.1
  | literalAny s => exact List.append_ne_nil_of_right_ne_nil _ (List.cons_ne_nil _ _)

theorem TemplateSegment.isLiteral_of_not_brace {t : TemplateSegment} (h : '{' ∉ t.text) :
    t.IsLiteral := by
  cases t with
  | one => exact h (by decide)
  | any => exact h (by decide)
  | literal s => trivial
  | literalAny s => exact h (List.mem_append_right s (by decide))

section

variable {ts : List TemplateSegment} (hw : ∀ t ∈ ts, t.WellFormed)

include hw

theorem slash_not_mem_map_text : ∀ s ∈ ts.map TemplateSegment.text, '/' ∉ s := by
  intro s hs
  obtain ⟨t, ht, rfl⟩ := List.mem_map.1 hs
  exact TemplateSegment.slash_not_mem (hw t ht)

theorem join_text_eq_cons (hne : ts ≠ []) :
    ∃ c s, join ['/'] (ts.map TemplateSegment.text) = c :: s ∧ c ≠ '/' := by
  obtain ⟨t, rest, rfl⟩ := List.exists_cons_of_ne_nil hne
  have ht := hw t List.mem_cons_self
  obtain ⟨c, s, hs⟩ := List.exists_cons_of_ne_nil (TemplateSegment.text_ne_nil ht)
  obtain ⟨r, hr⟩ := exists_join_cons ['/'] t.text (rest.map TemplateSegment.text)
  refine ⟨c, s ++ r, by rw [List.map_cons, hr, hs, List.cons_append], ?_⟩
  rintro rfl
  exact TemplateSegment.slash_not_mem ht (hs ▸ List.mem_cons_self)

theorem join_text_eq_concat (hne : ts ≠ []) :
    ∃ s c, join ['/'] (ts.map TemplateSegment.text) = s ++ [c] ∧ c ≠ '/' := by
  obtain ⟨rest, t, rfl⟩ := (List.eq_nil_or_concat' ts).resolve_left hne
  have ht := hw t (by simp)
  obtain ⟨s, c, hs⟩ := (List.eq_nil_or_concat' t.text).resolve_left (TemplateSegment.text_ne_nil ht)
  obtain ⟨r, hr⟩ := exists_join_concat ['/'] (rest.map TemplateSegment.text) t.text
  refine ⟨r ++ s, c, by rw [List.map_append, List.map_singleton, hr, hs, List.append_assoc], ?_⟩
  rintro rfl
  exact TemplateSegment.slash_not_mem ht (by simp [hs])

/-- The slashes around a template are no part of its segments. -/
theorem segments_template (hne : ts ≠ []) (lead trail : Nat) :
    segments (List.replicate lead '/' ++ ['/'].intercalate (ts.map TemplateSegment.text) ++
      List.replicate trail '/') = ts.map TemplateSegment.text := by
  have hslashes : ∀ n, (List.replicate n '/').all (· == '/') = true := fun n => by simp
  obtain ⟨c, s, hcons, hc⟩ := join_text_eq_cons hw hne
  obtain ⟨s', d, hconcat, hd⟩ := join_text_eq_concat hw hne
  have hstrip : stripWhile (· == '/') (List.replicate lead '/' ++
      join ['/'] (ts.map TemplateSegment.text) ++ List.replicate trail '/') =
      join ['/'] (ts.map TemplateSegment.text) :=
    stripWhile_append (hslashes lead) (hslashes trail) ⟨c, s, hcons, beq_false_of_ne hc⟩
      ⟨s', d, hconcat, beq_false_of_ne hd⟩
  have hmap : ts.map TemplateSegment.text ≠ [] := by simpa using hne
  rw [intercalate_eq_join, segments_eq, hstrip, if_neg (by rw [hcons]; exact List.cons_ne_nil _ _),
    pieces_join hmap (slash_not_mem_map_text hw)]

end

theorem join_segments (path : List Char) :
    join ['/'] (segments path) = stripWhile (· == '/') path := by
  rw [segments_eq]
  split
  · next h => rw [h, join]
  · exact join_pieces _ _

theorem eq_replicate_of_all {l : List Char} (h : l.all (· == '/') = true) :
    l = List.replicate l.length '/' :=
  List.eq_replicate_of_mem fun _ hc => eq_of_beq (List.all_eq_true.1 h _ hc)

/-- A path with braces whose segments pass the scan is a template. -/
theorem isTemplatePath_of_checkSegments {path : List Char} (hc : path.head? = some '/')
    (hb : path.any isBrace = true) (h : checkSegments false false (segments path) = .ok ()) :
    IsTemplatePath path := by
  obtain ⟨ts, hts, hw, hp, -⟩ := (checkSegments_eq_ok_iff _ _ _).1 h
  obtain ⟨c, hmem, hbrace⟩ := List.any_eq_true.1 hb
  have hslash : c ≠ '/' := by
    rintro rfl
    exact absurd hbrace (by decide)
  -- the brace stands in a segment, which is no literal then
  obtain ⟨s, hs, hcs⟩ := (mem_segments_iff path c).2 ⟨hmem, hslash⟩
  rw [hts] at hs
  obtain ⟨t, ht, rfl⟩ := List.mem_map.1 hs
  have hop : ¬ t.IsLiteral := by
    intro hl
    cases t with
    | literal s =>
      exact List.any_eq_false.1 (any_isBrace_eq_false (hw _ ht).2) c hcs hbrace
    | _ => exact hl
  obtain ⟨l, r, hpath, hl, hr⟩ := exists_eq_append_stripWhile (· == '/') path
  rw [← join_segments, hts, ← intercalate_eq_join, eq_replicate_of_all hl,
    eq_replicate_of_all hr] at hpath
  refine ⟨ts, l.length, r.length, ?_, hpath, hw, ⟨t, ht, hop⟩, hp⟩
  -- without a slash in front the path would start as its first segment does
  rw [Nat.pos_iff_ne_zero]
  intro hzero
  obtain ⟨d, u, hcons, hd⟩ := join_text_eq_cons hw (List.ne_nil_of_mem ht)
  rw [hzero, intercalate_eq_join, hcons] at hpath
  rw [hpath] at hc
  exact hd (Option.some.inj hc)

theorem IsTemplatePath.checkSegments {path : List Char} (h : IsTemplatePath path) :
    checkSegments false false (segments path) = .ok () := by
  obtain ⟨ts, lead, trail, -, rfl, hw, ⟨t, ht, -⟩, hp⟩ := h
  rw [segments_template hw (List.ne_nil_of_mem ht)]
  refine (checkSegments_eq_ok_iff _ _ _).2 ⟨ts, rfl, hw, hp, fun _ _ => ?_⟩
  exact ⟨fun hf => absurd hf Bool.false_ne_true, fun hf => absurd hf Bool.false_ne_true⟩

theorem IsTemplatePath.any_isBrace {path : List Char} (h : IsTemplatePath path) :
    path.any isBrace = true := by
  obtain ⟨ts, lead, trail, -, rfl, hw, ⟨t, ht, hop⟩, -⟩ := h
  have hbrace : '{' ∈ t.text := by
    by_contra hn
    exact hop (TemplateSegment.isLiteral_of_not_brace hn)
  have hseg := segments_template hw (List.ne_nil_of_mem ht) lead trail
  refine List.any_eq_true.2 ⟨'{', ((mem_segments_iff _ '{').1 ⟨t.text, ?_, hbrace⟩).1, by decide⟩
  rw [hseg]
  exact List.mem_map_of_mem ht

theorem IsTemplatePath.head? {path : List Char} (h : IsTemplatePath path) :
    path.head? = some '/' := by
  obtain ⟨ts, lead, trail, hlead, rfl, -⟩ := h
  obtain ⟨n, rfl⟩ := Nat.exists_eq_add_of_lt hlead
  simp [List.replicate_succ]

/-! ## Bare stars -/

/-- Is the scan for bare stars behind a text where it was before it? -/
def NoBareStar (s : List Char) : Prop :=
  ∀ rest, hasBareStarFrom false (s ++ rest) = hasBareStarFrom false rest

theorem NoBareStar.append {s t : List Char} (hs : NoBareStar s) (ht : NoBareStar t) :
    NoBareStar (s ++ t) := by
  intro rest
  rw [List.append_assoc, hs, ht]

theorem noBareStar_of_literal {s : List Char} (h : ∀ c ∈ s, c = '/' ∨ c ∈ literalAlphabet) :
    NoBareStar s := by
  have hplain {c d : Char} (hc : c = '/' ∨ c ∈ literalAlphabet) (hd : isSegmentChar d = false)
      (hslash : d ≠ '/') : c ≠ d := by
    rintro rfl
    exact hc.elim hslash (not_mem_literalAlphabet hd)
  intro rest
  induction s with
  | nil => rfl
  | cons c s ih =>
    obtain ⟨hc, hs⟩ := List.forall_mem_cons.1 h
    have h1 : c ≠ '{' := hplain hc (by decide) (by decide)
    have h2 : c ≠ '}' := hplain hc (by decide) (by decide)
    have h3 : c ≠ '*' := hplain hc (by decide) (by decide)
    rw [List.cons_append, hasBareStarFrom, if_neg h1, if_neg h2, if_neg (by simp [h3]), ih hs]

theorem TemplateSegment.noBareStar {t : TemplateSegment} (h : t.WellFormed) :
    NoBareStar t.text := by
  have hliteral {s : List Char} (hs : ∀ c ∈ s, c ∈ literalAlphabet) : NoBareStar s :=
    noBareStar_of_literal fun c hc => Or.inr (hs c hc)
  cases t with
  | one => exact fun _ => rfl
  | any => exact fun _ => rfl
  | literal s => exact hliteral h.2
  | literalAny s => exact (hliteral h.2).append fun _ => rfl

theorem noBareStar_join {ps : List (List Char)} (h : ∀ p ∈ ps, NoBareStar p) :
    NoBareStar (join ['/'] ps) := by
  induction ps with
  | nil => exact fun _ => rfl
  | cons p ps ih =>
    obtain ⟨hp, hps⟩ := List.forall_mem_cons.1 h
    by_cases hn : ps = []
    · rwa [hn, join]
    · rw [join_cons_of_ne_nil _ _ hn]
      exact (hp.append (noBareStar_of_literal (by simp))).append (ih hps)

theorem IsTemplatePath.hasBareStar {path : List Char} (h : IsTemplatePath path) :
    hasBareStar path = false := by
  have hslashes : ∀ n, NoBareStar (List.replicate n '/') := fun n =>
    noBareStar_of_literal fun c hc => Or.inl (List.eq_of_mem_replicate hc)
  obtain ⟨ts, lead, trail, -, rfl, hw, -⟩ := h
  rw [intercalate_eq_join]
  have hjoin : NoBareStar (join ['/'] (ts.map TemplateSegment.text)) := by
    refine noBareStar_join fun p hp => ?_
    obtain ⟨t, ht, rfl⟩ := List.mem_map.1 hp
    exact TemplateSegment.noBareStar (hw t ht)
  have := ((hslashes lead).append hjoin).append (hslashes trail) []
  rwa [List.append_nil] at this

/-! ## Plain paths -/

theorem isPlainPath_iff {path : List Char} : IsPlainPath path ↔
    path.head? = some '/' ∧ ∀ c ∈ path, c = '/' ∨ c ∈ literalAlphabet := by
  constructor
  · rintro ⟨rest, rfl, h⟩
    exact ⟨rfl, List.forall_mem_cons.2 ⟨Or.inl rfl, h⟩⟩
  · rintro ⟨hhead, h⟩
    obtain ⟨rest, rfl⟩ := List.head?_eq_some_iff.1 hhead
    exact ⟨rest, rfl, (List.forall_mem_cons.1 h).2⟩

theorem IsPlainPath.any_isBrace {path : List Char} (h : IsPlainPath path) :
    path.any isBrace = false := by
  have hslash : isBrace '/' = false := by decide
  rw [List.any_eq_false]
  intro c hc
  rcases (isPlainPath_iff.1 h).2 c hc with rfl | hc
  · rw [hslash]
    exact Bool.false_ne_true
  · exact List.any_eq_false.1 (any_isBrace_eq_false (s := [c]) (by simpa using hc)) c (by simp)

theorem IsPlainPath.star_not_mem {path : List Char} (h : IsPlainPath path) : '*' ∉ path := by
  intro hm
  rcases (isPlainPath_iff.1 h).2 _ hm with hslash | hmem
  · exact absurd hslash (by decide)
  · exact not_mem_literalAlphabet (by decide) hmem

theorem dropEndWhile_concat_star {q : List Char} (h : '*' ∉ q) :
    dropEndWhile (· == '*') (q ++ ['*']) = q := by
  have hrev : q.reverse.dropWhile (· == '*') = q.reverse := by
    refine List.dropWhile_eq_self_iff.2 fun hpos => ?_
    simp only [beq_iff_eq]
    intro he
    exact h (List.mem_reverse.1 (he ▸ List.getElem_mem hpos))
  rw [dropEndWhile, List.reverse_append, List.reverse_singleton, List.singleton_append,
    List.dropWhile_cons_of_pos (by decide), hrev, List.reverse_reverse]

/-! ## All paths -/

theorem IsAccepted.head? {path : List Char} (h : IsAccepted path) :
    path.head? = some '^' ∨ path.head? = some '/' := by
  rcases h with h | h | ⟨q, h, rfl⟩ | h
  · exact Or.inl h
  · exact Or.inr (isPlainPath_iff.1 h).1
  · rw [List.head?_append, (isPlainPath_iff.1 h).1]
    exact Or.inr rfl
  · exact Or.inr h.head?

section

variable {path : List Char} (hc : path.head? = some '/')

include hc

/-- With braces a path is accepted as a template only. -/
theorem checkChars_brace_iff (hb : path.any isBrace = true) :
    checkChars path = .ok () ↔ IsTemplatePath path := by
  rw [checkChars, if_neg (head?_ne_caret hc), if_neg (by simp [hc])]
  constructor
  · intro h
    split at h
    · simp only [hb] at h
      cases h
    · rw [if_pos hb] at h
      exact isTemplatePath_of_checkSegments hc hb h
  · intro h
    simp only [h.hasBareStar, Bool.false_eq_true, if_false, hb, if_true]
    exact h.checkSegments

theorem checkChars_star_iff (hb : path.any isBrace = false) (hs : '*' ∈ path) :
    checkChars path = .ok () ↔ ∃ q, IsPlainPath q ∧ path = q ++ ['*'] := by
  rw [checkChars, if_neg (head?_ne_caret hc), if_neg (by simp [hc])]
  simp only [(hasBareStar_iff_of_not_brace hb).2 hs, hb, if_true, Bool.false_eq_true, if_false]
  constructor
  · intro h
    split at h
    · cases h
    · next hlast =>
      obtain ⟨q, hq, rfl⟩ := (star_last_iff hs).1 (by simpa using hlast)
      rw [dropEndWhile_concat_star hq, checkLiterals_eq_ok_iff] at h
      refine ⟨q, isPlainPath_iff.2 ⟨?_, h⟩, rfl⟩
      cases q with
      | nil => exact absurd hc (by decide)
      | cons d q => exact hc
  · rintro ⟨q, hq, rfl⟩
    have hlast := (star_last_iff hs).2 ⟨q, hq.star_not_mem, rfl⟩
    rw [if_neg (by simpa using hlast), dropEndWhile_concat_star hq.star_not_mem,
      checkLiterals_eq_ok_iff]
    exact (isPlainPath_iff.1 hq).2

theorem checkChars_plain_iff (hb : path.any isBrace = false) (hs : '*' ∉ path) :
    checkChars path = .ok () ↔ IsPlainPath path := by
  have hbare : ¬ hasBareStar path = true := fun h => hs ((hasBareStar_iff_of_not_brace hb).1 h)
  rw [checkChars, if_neg (head?_ne_caret hc), if_neg (by simp [hc])]
  simp only [hbare, hb, Bool.false_eq_true, if_false]
  rw [checkLiterals_eq_ok_iff, isPlainPath_iff]
  exact (and_iff_right hc).symm

end

/-- **Which paths are accepted.** -/
theorem check_eq_ok_iff (path : String) : check path = .ok () ↔ IsAccepted path.toList := by
  rw [check]
  generalize path.toList = path
  by_cases hcaret : path.head? = some '^'
  · rw [checkChars, if_pos hcaret]
    exact iff_of_true rfl (Or.inl hcaret)
  by_cases hc : path.head? = some '/'
  · cases hb : path.any isBrace with
    | true =>
      rw [checkChars_brace_iff hc hb]
      refine ⟨fun h => Or.inr (Or.inr (Or.inr h)), ?_⟩
      rintro (h | h | ⟨q, h, rfl⟩ | h)
      · exact absurd h hcaret
      · rw [h.any_isBrace] at hb
        cases hb
      · rw [List.any_append, h.any_isBrace] at hb
        exact absurd hb (by decide)
      · exact h
    | false =>
      have hno : ¬ IsTemplatePath path := fun h => by
        rw [h.any_isBrace] at hb
        cases hb
      by_cases hs : '*' ∈ path
      · rw [checkChars_star_iff hc hb hs]
        refine ⟨fun h => Or.inr (Or.inr (Or.inl h)), ?_⟩
        rintro (h | h | h | h)
        · exact absurd h hcaret
        · exact absurd hs h.star_not_mem
        · exact h
        · exact absurd h hno
      · rw [checkChars_plain_iff hc hb hs]
        refine ⟨fun h => Or.inr (Or.inl h), ?_⟩
        rintro (h | h | ⟨q, -, rfl⟩ | h)
        · exact absurd h hcaret
        · exact h
        · exact absurd (by simp) hs
        · exact absurd h hno
  · have hfault : checkChars path ≠ .ok () := by
      rw [checkChars, if_neg hcaret, if_pos hc]
      exact fun h => by cases h
    exact iff_of_false hfault fun h => h.head?.elim hcaret hc

end LoginGate.Access
