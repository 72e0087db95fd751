import LoginGate.Json.Writer
import LoginGate.Proofs.Yaml.QuotedScalars

/-!
# Texts as JSON quotes them

JSON leaves characters as they are that YAML folds or refuses between double quotes: gaps
(`isRawGap`), which may bring a text to a line that separates documents (`atDocumentMark_quoted`),
and characters that are not permitted.  All others are read one by one (`isUnit_of_not_isRawGap`).
A text without any that count is `Verbatim`.
-/

namespace LoginGate.Yaml

open LoginGate.Text

/-- Does a line that separates documents begin here? -/
def beginsMark : List Char → Bool
  | a :: b :: c :: d :: _ =>
    (a = '-' || a = '.') && b = a && c = a && (d = ' ' || Gap.isSeparator d)
  | _ => false

/-- Does a line of the text that separates documents begin behind a break? -/
def hasMark : List Char → Bool
  | [] => false
  | c :: s => (Gap.isSeparator c && beginsMark s) || hasMark s

/-- A text that is read as it stands when JSON has quoted it: all its characters are permitted or
escaped, and folding changes nothing, as no space stands beside a break and no break is the one that
becomes a line feed. -/
structure Verbatim (s : List Char) : Prop where
  permitted : ∀ c ∈ s, isPermitted c = true ∨ c.toNat < 32
  noNextLine : ∀ c ∈ s, c.toNat ≠ 0x85
  noSpaceBefore : anyNeighbours (fun a b => a = ' ' && Gap.isSeparator b) s = false
  noSpaceBehind : anyNeighbours (fun a b => Gap.isSeparator a && b = ' ') s = false
  noMark : hasMark s = false

/-- A text that stays on its line when JSON has quoted it. -/
structure OneLine (s : List Char) : Prop where
  permitted : ∀ c ∈ s, isPermitted c = true ∨ c.toNat < 32
  noBreak : ∀ c ∈ s, c.toNat ≠ 0x85 ∧ Gap.isSeparator c = false

/-- A text that is read as it stands when it is a key: it stays on its line and within the length of
a key. -/
structure VerbatimKey (s : List Char) : Prop extends OneLine s where
  short : (Json.quoted s).length ≤ 1024

theorem Verbatim.of_cons {c : Char} {s : List Char} (h : Verbatim (c :: s)) : Verbatim s where
  permitted d hd := h.permitted d (List.mem_cons_of_mem c hd)
  noNextLine d hd := h.noNextLine d (List.mem_cons_of_mem c hd)
  noSpaceBefore := anyNeighbours_of_cons h.noSpaceBefore
  noSpaceBehind := anyNeighbours_of_cons h.noSpaceBehind
  noMark := (Bool.or_eq_false_iff.1 h.noMark).2

theorem Verbatim.cons {c : Char} {s : List Char} (h : Verbatim s)
    (hpermitted : isPermitted c = true ∨ c.toNat < 32) (hline : c.toNat ≠ 0x85)
    (hspace : c = ' ' → ∀ d ∈ s.head?, Gap.isSeparator d = false)
    (hbreak : Gap.isSeparator c = true → (∀ d ∈ s.head?, d ≠ ' ') ∧ beginsMark s = false) :
    Verbatim (c :: s) := by
  refine ⟨List.forall_mem_cons.2 ⟨hpermitted, h.permitted⟩,
    List.forall_mem_cons.2 ⟨hline, h.noNextLine⟩, anyNeighbours_cons (fun d hd => ?_) h.noSpaceBefore,
    anyNeighbours_cons (fun d hd => ?_) h.noSpaceBehind, ?_⟩
  · rw [Bool.and_eq_false_imp]
    exact fun hc => hspace (of_decide_eq_true hc) d hd
  · rw [Bool.and_eq_false_imp]
    exact fun hc => decide_eq_false ((hbreak hc).1 d hd)
  · rw [hasMark, h.noMark, Bool.or_false, Bool.and_eq_false_imp]
    exact fun hc => (hbreak hc).2

theorem OneLine.of_cons {c : Char} {s : List Char} (h : OneLine (c :: s)) : OneLine s where
  permitted d hd := h.permitted d (List.mem_cons_of_mem c hd)
  noBreak d hd := h.noBreak d (List.mem_cons_of_mem c hd)

/-- Without breaks there is nothing to fold. -/
theorem OneLine.verbatim {s : List Char} (h : OneLine s) : Verbatim s := by
  induction s with
  | nil => exact ⟨h.permitted, fun c hc => (h.noBreak c hc).1, rfl, rfl, rfl⟩
  | cons c s ih =>
    obtain ⟨hline, hc⟩ := h.noBreak c List.mem_cons_self
    refine (ih h.of_cons).cons (h.permitted c List.mem_cons_self) hline (fun _ d hd => ?_) fun hbreak => ?_
    · exact (h.noBreak d (List.mem_cons_of_mem c (List.mem_of_mem_head? hd))).2
    · rw [hc] at hbreak
      cases hbreak

/-! ## Escapes -/

/-- A character is written as it is, or behind a backslash. -/
theorem escapeChar_cases (c : Char) :
    (Json.escapeChar c = [c] ∧ c ≠ '"' ∧ c ≠ '\\' ∧ 32 ≤ c.toNat) ∨
      ∃ more, Json.escapeChar c = '\\' :: more := by
  rw [Json.escapeChar]
  split_ifs with h₁ h₂ h₃ h₄ h₅ h₆ h₇ h₈
  all_goals first
    | exact Or.inr ⟨_, rfl⟩
    | exact Or.inl ⟨rfl, h₁, h₂, not_lt.1 h₈⟩

theorem numeral?_control {n : Nat} (h : n < 32) :
    numeral? 16 ['0', '0', hexDigit (n / 16), hexDigit (n % 16)] = some n := by
  have : ∀ n < 32, numeral? 16 ['0', '0', hexDigit (n / 16), hexDigit (n % 16)] = some n := by
    decide
  exact this n h

theorem isUnit_control {c : Char} (h : c.toNat < 32) :
    IsUnit .double ['\\', 'u', '0', '0', hexDigit (c.toNat / 16), hexDigit (c.toNat % 16)] c := by
  refine isUnit_escape rfl fun rest => ?_
  have hdigits := numeral?_control h
  change (do
    let x ← charOfCodePoint? (← numeral? 16
      ['0', '0', hexDigit (c.toNat / 16), hexDigit (c.toNat % 16)])
    some (x, 5)) = _
  rw [hdigits, Option.bind_eq_bind, Option.bind_some, charOfCodePoint?_toNat]
  rfl

/-- A character that is no gap as it is written is read by itself. -/
theorem isUnit_jsonEscape {c : Char} (hspace : c ≠ ' ') (hline : c.toNat ≠ 0x85)
    (hseparator : Gap.isSeparator c = false) : IsUnit .double (Json.escapeChar c) c := by
  rw [Json.escapeChar]
  split_ifs with h₁ h₂ h₃ h₄ h₅ h₆ h₇ h₈
  · subst h₁
    exact isUnit_simpleEscape rfl rfl rfl
  · subst h₂
    exact isUnit_simpleEscape rfl rfl rfl
  · subst h₃
    exact isUnit_simpleEscape rfl rfl rfl
  · subst h₄
    exact isUnit_simpleEscape rfl rfl rfl
  · subst h₅
    exact isUnit_simpleEscape rfl rfl rfl
  · rw [← Char.ofNat_toNat c, h₆]
    exact isUnit_simpleEscape rfl rfl rfl
  · rw [← Char.ofNat_toNat c, h₇]
    exact isUnit_simpleEscape rfl rfl rfl
  · exact isUnit_control h₈
  · refine isUnit_plain ?_ h₁ h₂
    rw [Gap.isSeparator, Bool.or_eq_false_iff, decide_eq_false_iff_not, decide_eq_false_iff_not]
      at hseparator
    simp [isGap, isWhite, isBreak, hspace, h₃, h₄, h₅, hline, hseparator]

theorem jsonEscape_plain {c : Char} (hquote : c ≠ '"') (hescape : c ≠ '\\') (h : 32 ≤ c.toNat) :
    Json.escapeChar c = [c] := by
  have hne (x : Char) (hx : x.toNat < 32) : c ≠ x := by
    rintro rfl
    omega
  rw [Json.escapeChar, if_neg hquote, if_neg hescape, if_neg (hne '\n' (by decide)),
    if_neg (hne '\r' (by decide)), if_neg (hne '\t' (by decide)), if_neg (by omega),
    if_neg (by omega), if_neg (by omega)]

/-- What is written begins with a backslash, or with the first character of the text. -/
theorem of_quoted_cons {s rest t : List Char} {x : Char}
    (h : s.flatMap Json.escapeChar ++ rest = x :: t) (hescape : x ≠ '\\')
    (hrest : rest.head? ≠ some x) :
    32 ≤ x.toNat ∧ ∃ s', s = x :: s' ∧ t = s'.flatMap Json.escapeChar ++ rest := by
  cases s with
  | nil =>
    rw [List.flatMap_nil, List.nil_append] at h
    rw [h] at hrest
    exact absurd rfl hrest
  | cons c s =>
    rw [List.flatMap_cons, List.append_assoc] at h
    obtain ⟨hplain, -, -, hc⟩ | ⟨more, hmore⟩ := escapeChar_cases c
    · rw [hplain] at h
      obtain ⟨rfl, rfl⟩ := List.cons.inj h
      exact ⟨hc, s, rfl, rfl⟩
    · rw [hmore] at h
      exact absurd (List.cons.inj h).1.symm hescape

/-! ## Whole texts -/

/-- What JSON writes of a character is printable ASCII, unless it is the character itself. -/
theorem mem_jsonEscape {c d : Char} (h : d ∈ Json.escapeChar c) :
    (d = c ∧ 32 ≤ c.toNat) ∨ (32 < d.toNat ∧ d.toNat < 127) := by
  have hdigit (n : Nat) (hn : n < 16) : 32 < (hexDigit n).toNat ∧ (hexDigit n).toNat < 127 := by
    have : ∀ n < 16, 32 < (hexDigit n).toNat ∧ (hexDigit n).toNat < 127 := by decide
    exact this n hn
  rw [Json.escapeChar] at h
  split_ifs at h with h₁ h₂ h₃ h₄ h₅ h₆ h₇ h₈
  case neg =>
    obtain rfl := List.mem_singleton.1 h
    exact Or.inl ⟨rfl, not_lt.1 h₈⟩
  all_goals
    right
    simp only [List.mem_cons, List.not_mem_nil, or_false] at h
  all_goals first
    | obtain rfl | rfl := h <;> decide
    | obtain rfl | rfl | rfl | rfl | rfl | rfl := h <;> first | decide | exact hdigit _ (by omega)

theorem mem_quoted {s : List Char} {d : Char} (h : d ∈ Json.quoted s) :
    (d ∈ s ∧ 32 ≤ d.toNat) ∨ (32 < d.toNat ∧ d.toNat < 127) := by
  rw [Json.quoted, List.cons_append, List.mem_cons, List.mem_append, List.mem_singleton] at h
  obtain rfl | h | rfl := h
  · exact Or.inr (by decide)
  · obtain ⟨c, hc, hd⟩ := List.mem_flatMap.1 h
    obtain ⟨rfl, hcontrol⟩ | hprintable := mem_jsonEscape hd
    · exact Or.inl ⟨hc, hcontrol⟩
    · exact Or.inr hprintable
  · exact Or.inr (by decide)

theorem mem_quoted_of_plain {c : Char} {s : List Char} (hc : c ∈ s) (h : Json.escapeChar c = [c]) :
    c ∈ Json.quoted s :=
  List.mem_append_left _ (List.mem_cons_of_mem _ (List.mem_flatMap.2 ⟨c, hc, h ▸ List.mem_cons_self⟩))

/-- JSON writes no character of its own that is not permitted. -/
theorem isPermitted_quoted_iff {s : List Char} : (∀ c ∈ Json.quoted s, isPermitted c = true) ↔
    ∀ c ∈ s, isPermitted c = true ∨ c.toNat < 32 := by
  constructor
  · intro h c hc
    by_contra! hstray
    obtain ⟨hstray, hcontrol⟩ := hstray
    refine hstray (h c (mem_quoted_of_plain hc (jsonEscape_plain ?_ ?_ hcontrol)))
    all_goals
      rintro rfl
      exact hstray rfl
  · intro h d hd
    obtain ⟨hmem, hcontrol⟩ | ⟨hlow, hhigh⟩ := mem_quoted hd
    · exact (h d hmem).resolve_right (by omega)
    · simp only [isPermitted, Bool.or_eq_true, Bool.and_eq_true, decide_eq_true_eq]
      omega

/-! ## Gaps that JSON leaves as they are -/

/-- A gap that JSON leaves as it is. -/
def isRawGap (c : Char) : Bool := isGap c && 32 ≤ c.toNat

section

variable {c : Char} {s gap rest : List Char}

theorem isGap_of_isRawGap (h : isRawGap c = true) : isGap c = true := (Bool.and_eq_true_iff.1 h).1

theorem le_of_isRawGap (h : isRawGap c = true) : 32 ≤ c.toNat :=
  of_decide_eq_true (Bool.and_eq_true_iff.1 h).2

theorem isRawGap_cases (h : isRawGap c = true) :
    c = ' ' ∨ c.toNat = 0x85 ∨ Gap.isSeparator c = true := by
  have hgap := isGap_of_isRawGap h
  have hcontrol := le_of_isRawGap h
  have hne (x : Char) (hx : x.toNat < 32) : c ≠ x := by
    rintro rfl
    omega
  simpa [isGap, isWhite, isBreak, Gap.isSeparator, hne '\t' (by decide), hne '\n' (by decide),
    hne '\r' (by decide), or_assoc] using hgap

theorem isRawGap_of_isSeparator (h : Gap.isSeparator c = true) : isRawGap c = true := by
  have hcontrol : 32 ≤ c.toNat := by
    simp only [Gap.isSeparator, Bool.or_eq_true, decide_eq_true_eq] at h
    omega
  rw [isRawGap, isGap, Gap.isBreak_of_isSeparator h, Bool.or_true, Bool.true_and,
    decide_eq_true hcontrol]

theorem not_isRawGap_spec (h : isRawGap c = false) :
    c ≠ ' ' ∧ c.toNat ≠ 0x85 ∧ Gap.isSeparator c = false := by
  refine ⟨?_, fun hline => ?_, ?_⟩
  · rintro rfl
    cases h
  · rw [← Char.ofNat_toNat c, hline] at h
    revert h
    decide
  · rw [← Bool.not_eq_true] at h ⊢
    exact mt isRawGap_of_isSeparator h

theorem isRawGap_eq (hline : c.toNat ≠ 0x85) : isRawGap c = (c = ' ' || Gap.isSeparator c) := by
  rw [Bool.eq_iff_iff, Bool.or_eq_true, decide_eq_true_eq]
  constructor
  · intro h
    exact (isRawGap_cases h).imp_right fun h => h.resolve_left hline
  · rintro (rfl | h)
    · rfl
    · exact isRawGap_of_isSeparator h

theorem jsonEscape_rawGap (h : isRawGap c = true) : Json.escapeChar c = [c] := by
  refine jsonEscape_plain ?_ ?_ (le_of_isRawGap h)
  all_goals
    rintro rfl
    cases h

theorem flatMap_jsonEscape_rawGaps (h : ∀ c ∈ gap, isRawGap c = true) :
    gap.flatMap Json.escapeChar = gap := by
  induction gap with
  | nil => rfl
  | cons c gap ih =>
    rw [List.flatMap_cons, jsonEscape_rawGap (h c List.mem_cons_self),
      ih fun d hd => h d (List.mem_cons_of_mem c hd), List.singleton_append]

theorem isUnit_of_not_isRawGap (h : isRawGap c = false) : IsUnit .double (Json.escapeChar c) c := by
  obtain ⟨hspace, hline, hseparator⟩ := not_isRawGap_spec h
  exact isUnit_jsonEscape hspace hline hseparator

theorem isBreak_of_printable (hlow : 32 < c.toNat) (hhigh : c.toNat < 127) : isBreak c = false := by
  rw [← Bool.not_eq_true]
  intro hbreak
  simp only [isBreak, Bool.or_eq_true, decide_eq_true_eq] at hbreak
  obtain (((rfl | rfl) | hbreak) | hbreak) | hbreak := hbreak
  all_goals first
    | omega
    | revert hlow; decide

/-- JSON writes no break of its own. -/
theorem countP_isBreak_jsonEscape (h : isRawGap c = false) :
    (Json.escapeChar c).countP isBreak = 0 := by
  rw [List.countP_eq_zero]
  intro d hd hbreak
  obtain ⟨rfl, hcontrol⟩ | ⟨hlow, hhigh⟩ := mem_jsonEscape hd
  · rw [isRawGap, isGap, hbreak, Bool.or_true, decide_eq_true hcontrol] at h
    cases h
  · rw [isBreak_of_printable hlow hhigh] at hbreak
    cases hbreak

theorem isBreak_eq_false_iff (h : 32 ≤ c.toNat) :
    isBreak c = false ↔ c.toNat ≠ 0x85 ∧ Gap.isSeparator c = false := by
  have hne (x : Char) (hx : x.toNat < 32) : c ≠ x := by
    rintro rfl
    omega
  simp [isBreak, Gap.isSeparator, hne '\n' (by decide), hne '\r' (by decide), and_assoc]

theorem isBreak_quoted_iff : (∀ c ∈ Json.quoted s, isBreak c = false) ↔
    ∀ c ∈ s, c.toNat ≠ 0x85 ∧ Gap.isSeparator c = false := by
  constructor
  · intro h c hc
    by_cases hcontrol : 32 ≤ c.toNat
    · rw [← isBreak_eq_false_iff hcontrol]
      by_contra hbreak
      have hraw : isRawGap c = true := by
        rw [isRawGap, isGap, Bool.eq_true_of_not_eq_false hbreak, Bool.or_true,
          decide_eq_true hcontrol, Bool.and_self]
      exact hbreak (h c (mem_quoted_of_plain hc (jsonEscape_rawGap hraw)))
    · refine ⟨by omega, ?_⟩
      rw [Gap.isSeparator, Bool.or_eq_false_iff, decide_eq_false_iff_not, decide_eq_false_iff_not]
      omega
  · intro h d hd
    obtain ⟨hmem, hcontrol⟩ | ⟨hlow, hhigh⟩ := mem_quoted hd
    · exact (isBreak_eq_false_iff hcontrol).2 (h d hmem)
    · exact isBreak_of_printable hlow hhigh

theorem noGap_quoted (h : EndsRun isRawGap s) (rest : List Char) :
    NoGap (s.flatMap Json.escapeChar ++ '"' :: rest) := by
  cases s with
  | nil => exact endsRun_cons rfl rest
  | cons c s =>
    rw [List.flatMap_cons, List.append_assoc]
    exact (isUnit_of_not_isRawGap (h c rfl)).noGap _

/-! ## Lines that separate documents -/

/-- Does a line that separates documents begin where JSON writes this text? -/
def startsMark : List Char → Bool
  | a :: b :: c :: d :: _ => (a = '-' || a = '.') && b = a && c = a && isRawGap d
  | _ => false

theorem startsMark_eq (h : ∀ c ∈ s, c.toNat ≠ 0x85) : startsMark s = beginsMark s := by
  unfold startsMark beginsMark
  split
  · rw [isRawGap_eq (h _ (by simp))]
  · rfl

theorem atMarkLine_quoted {x : Char} (hx : x = '-' ∨ x = '.') (index line column : Nat) :
    (⟨s.flatMap Json.escapeChar ++ '"' :: rest, index, line, column⟩ : Cursor).atMarkLine x = true ↔
      column = 0 ∧ ∃ d s', s = x :: x :: x :: d :: s' ∧ isRawGap d = true := by
  have hescape : x ≠ '\\' := by rintro rfl; revert hx; decide
  have hquote : ('"' :: rest).head? ≠ some x := by
    rintro h
    obtain rfl := Option.some.inj h
    revert hx
    decide
  rw [Cursor.atMarkLine, Bool.and_eq_true, Bool.and_eq_true, beq_iff_eq, beq_iff_eq, Cursor.gapAt]
  dsimp only
  constructor
  · rintro ⟨⟨hcolumn, htake⟩, hgap⟩
    refine ⟨hcolumn, ?_⟩
    -- the three characters stand at the beginning of the text itself
    generalize hwritten : s.flatMap Json.escapeChar ++ '"' :: rest = written at htake hgap
    obtain ⟨a, b, c, t, rfl⟩ : ∃ a b c t, written = a :: b :: c :: t := by
      rcases written with _ | ⟨a, _ | ⟨b, _ | ⟨c, t⟩⟩⟩
      · simp at htake
      · simp at htake
      · simp at htake
      · exact ⟨a, b, c, t, rfl⟩
    simp only [List.take_succ_cons, List.take_zero, List.cons.injEq, and_true] at htake
    obtain ⟨rfl, rfl, rfl⟩ := htake
    obtain ⟨-, s₁, rfl, h₁⟩ := of_quoted_cons hwritten hescape hquote
    obtain ⟨-, s₂, rfl, h₂⟩ := of_quoted_cons h₁.symm hescape hquote
    obtain ⟨-, s₃, rfl, h₃⟩ := of_quoted_cons h₂.symm hescape hquote
    cases t with
    | nil => exact absurd h₃.symm (List.append_ne_nil_of_right_ne_nil _ (List.cons_ne_nil _ _))
    | cons d t =>
      have hgap : isGap d = true := hgap
      have hne (y : Char) (hy : isGap y = false) : d ≠ y := by
        rintro rfl
        rw [hy] at hgap
        cases hgap
      obtain ⟨hcontrol, s₄, rfl, -⟩ := of_quoted_cons h₃.symm (hne '\\' rfl)
        fun h => hne '"' rfl (Option.some.inj h).symm
      exact ⟨d, s₄, rfl, by rw [isRawGap, hgap, decide_eq_true hcontrol, Bool.and_self]⟩
  · rintro ⟨hcolumn, d, s', rfl, hd⟩
    have hx' : Json.escapeChar x = [x] := by obtain rfl | rfl := hx <;> rfl
    simp only [List.flatMap_cons, hx', jsonEscape_rawGap hd, List.cons_append, List.nil_append,
      List.take_succ_cons, List.take_zero, List.drop_succ_cons, List.drop_zero, hcolumn,
      isGap_of_isRawGap hd, and_self]

theorem atDocumentMark_quoted (s rest : List Char) (index line column : Nat) :
    (⟨s.flatMap Json.escapeChar ++ '"' :: rest, index, line, column⟩ : Cursor).atDocumentMark =
      (column == 0 && startsMark s) := by
  have hstarts : startsMark s = true ↔
      ∃ x, (x = '-' ∨ x = '.') ∧ ∃ d s', s = x :: x :: x :: d :: s' ∧ isRawGap d = true := by
    constructor
    · intro h
      unfold startsMark at h
      split at h
      · simp only [Bool.and_eq_true, Bool.or_eq_true, decide_eq_true_eq] at h
        obtain ⟨⟨⟨hx, rfl⟩, rfl⟩, hd⟩ := h
        exact ⟨_, hx, _, _, rfl, hd⟩
      · cases h
    · rintro ⟨x, hx, d, s', rfl, hd⟩
      simp only [startsMark, hd, hx, Bool.and_true, decide_true, Bool.or_eq_true, decide_eq_true_eq]
  rw [Bool.eq_iff_iff, Cursor.atDocumentMark, Bool.or_eq_true, Bool.and_eq_true, beq_iff_eq, hstarts,
    atMarkLine_quoted (Or.inl rfl), atMarkLine_quoted (Or.inr rfl)]
  constructor
  · rintro (⟨hcolumn, h⟩ | ⟨hcolumn, h⟩)
    · exact ⟨hcolumn, '-', Or.inl rfl, h⟩
    · exact ⟨hcolumn, '.', Or.inr rfl, h⟩
  · rintro ⟨hcolumn, x, rfl | rfl, h⟩
    · exact Or.inl ⟨hcolumn, h⟩
    · exact Or.inr ⟨hcolumn, h⟩

theorem startsMark_rawGap (h : isRawGap c = true) (s : List Char) : startsMark (c :: s) = false := by
  have hne (x : Char) (hx : isRawGap x = false) : c ≠ x := by
    rintro rfl
    rw [hx] at h
    cases h
  unfold startsMark
  split
  · rename_i heq
    obtain ⟨rfl, -⟩ := List.cons.inj heq
    rw [decide_eq_false (hne '-' (by decide)), decide_eq_false (hne '.' (by decide))]
    rfl
  · rfl

end

end LoginGate.Yaml
