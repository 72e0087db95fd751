import LoginGate.Proofs.Yaml.Values
import LoginGate.Text.Bytes

/-!
# Texts, in the styles that the writer gives them

Every text is read back as one scalar token, whatever its style (`leads_text`); a key on one line is
read as a token too, and is still possible as a key when the colon comes (`tokenHere?_key`).
-/

namespace LoginGate.Yaml

open LoginGate.Text

/-! ## Styles -/

theorem isKeptBreak_of_isBreak {c : Char} (hplain : isPlainCharacter c = true)
    (hbreak : isBreak c = true) : isKeptBreak c = true := by
  rw [isBreak] at hbreak
  simp only [Bool.or_eq_true, decide_eq_true_eq] at hbreak
  obtain (((rfl | rfl) | h) | h) | h := hbreak
  · rfl
  · exact Bool.noConfusion hplain
  · simp [isPlainCharacter, h] at hplain
  · simp [isKeptBreak, Gap.isSeparator, h]
  · simp [isKeptBreak, Gap.isSeparator, h]

theorem forall_isPlainCharacter {s : List Char} (h : needsEscapes s = false) :
    (∀ c ∈ s, isPlainCharacter c = true) ∧
      anyNeighbours (fun a b => a = ' ' && isBreak b) s = false := by
  rw [needsEscapes, Bool.or_eq_false_iff, Bool.not_eq_false', List.all_eq_true] at h
  exact h

theorem fitsLines_of_fitsBlock {s : List Char} (h : fitsBlock s = true) : FitsLines s := by
  rw [fitsBlock, Bool.and_eq_true, Bool.not_eq_true'] at h
  intro c hc
  have hplain := (forall_isPlainCharacter h.1).1 c hc
  refine ⟨?_, isKeptBreak_of_isBreak hplain⟩
  rintro rfl
  exact Bool.noConfusion hplain

/-- What is known of a text by its style. -/
inductive Styled (s : List Char) : Style → Prop
  | plain : fitsPlain s = true → s ≠ [] → resolve s = .text → Styled s .plain
  | singleQuoted : fitsSingleQuotes s = true → '\n' ∉ s → Styled s .singleQuoted
  | doubleQuoted : Styled s .doubleQuoted
  | literal : fitsBlock s = true → '\n' ∈ s → Styled s .literal

theorem styled (s : List Char) : Styled s (styleOf s) := by
  rw [styleOf]
  by_cases hline : '\n' ∈ s
  · rw [List.contains_iff_mem.2 hline, if_pos rfl]
    cases hblock : fitsBlock s with
    | true => exact .literal hblock hline
    | false => exact .doubleQuoted
  · have hcontains : s.contains '\n' = false := by
      rw [Bool.eq_false_iff]
      exact mt List.contains_iff_mem.1 hline
    rw [hcontains, if_neg Bool.false_ne_true]
    split
    · rename_i hplain
      rw [Bool.and_eq_true, Bool.not_eq_true', isAmbiguous, Bool.or_eq_false_iff,
        bne_eq_false_iff_eq] at hplain
      refine .plain hplain.2 ?_ hplain.1.1
      rintro rfl
      exact absurd hplain.1.1 (by decide)
    · split
      · rename_i hsingle
        exact .singleQuoted hsingle hline
      · exact .doubleQuoted

def Style.scalar : Style → ScalarStyle
  | .plain => .plain
  | .singleQuoted => .quoted
  | .doubleQuoted => .quoted
  | .literal => .block

def textToken (s : List Char) : Token := .scalar s (styleOf s).scalar

/-! ## Ends of lines -/

theorem endLine_append {s t : List Char} (h : t ≠ []) : endLine (s ++ t) = s ++ endLine t := by
  rw [endLine, List.getLast?_append_of_ne_nil s h, endLine]
  split
  · rfl
  · rw [List.append_assoc]

theorem endLine_concat {s : List Char} {c : Char} (h : isBreak c = false) :
    endLine (s ++ [c]) = s ++ [c] ++ ['\n'] := by
  rw [endLine, List.getLast?_concat, Option.any_some, h, if_neg Bool.false_ne_true]

theorem endLine_line {s : List Char} (hbreaks : ∀ c ∈ s, isBreak c = false) :
    endLine s = s ++ ['\n'] := by
  have hlast : s.getLast?.any isBreak = false := by
    cases hlast : s.getLast? with
    | none => rfl
    | some c => exact hbreaks c (List.mem_of_getLast? hlast)
  rw [endLine, hlast, if_neg Bool.false_ne_true]

theorem getLast?_indentLines {column : Nat} {s : List Char} (h : s ≠ []) (fresh : Bool) :
    (indentLines column (fun c => [c]) false fresh s).getLast? = s.getLast? := by
  induction s generalizing fresh with
  | nil => exact absurd rfl h
  | cons c s ih =>
    rw [indentLines]
    cases s with
    | nil =>
      have hnil (fresh : Bool) : indentLines column (fun c => [c]) false fresh [] = [] :=
        if_neg (by rw [Bool.and_false]; exact Bool.false_ne_true)
      rw [hnil, hnil, List.append_nil]
      split
      · rfl
      · exact List.getLast?_concat
    | cons d s =>
      have hlast (fresh : Bool) := ih (List.cons_ne_nil d s) fresh
      have hne (fresh : Bool) : indentLines column (fun c => [c]) false fresh (d :: s) ≠ [] := by
        intro hnil
        have := hlast fresh
        rw [hnil] at this
        exact absurd (List.getLast?_eq_none_iff.1 this.symm) (List.cons_ne_nil d s)
      rw [List.getLast?_cons_cons]
      split
      · rw [← List.singleton_append, List.getLast?_append_of_ne_nil _ (hne true), hlast]
      · rw [List.getLast?_append_of_ne_nil _ (hne false), hlast]

theorem endLine_literalBlock {s : List Char} (h : s ≠ []) (column n : Nat) (rest : List Char) :
    endLine (literalBlock column s) ++ indentation n ++ rest =
      literalBlock column s ++ afterBlock s n rest := by
  have hne : indentLines column (fun c => [c]) false true s ≠ [] := fun hnil => by
    have := @getLast?_indentLines column s h true
    rw [hnil] at this
    exact h (List.getLast?_eq_none_iff.1 this.symm)
  have hlast : (literalBlock column s).getLast? = s.getLast? := by
    rw [literalBlock, List.getLast?_append_of_ne_nil _ (List.cons_ne_nil _ _),
      ← List.singleton_append, List.getLast?_append_of_ne_nil _ hne, getLast?_indentLines h]
  rw [endLine, hlast, afterBlock]
  split
  · simp only [List.nil_append, List.append_assoc]
  · simp only [List.append_assoc]

/-! ## Texts as values -/

theorem fitsSingleQuotes_iff (s : List Char) : fitsSingleQuotes s = true ↔ needsEscapes s = false ∧
    anyNeighbours (fun a b => isBreak a && b = ' ') s = false := by
  rw [fitsSingleQuotes, Bool.and_eq_true, Bool.not_eq_true', Bool.not_eq_true']

theorem gaps_of_fitsSingleQuotes {s : List Char} (h : fitsSingleQuotes s = true) (hline : '\n' ∉ s) :
    ∀ c ∈ s, isGap c = true → c = ' ' ∨ Gap.isSeparator c = true := by
  intro c hc hgap
  have hplain := (forall_isPlainCharacter ((fitsSingleQuotes_iff s).1 h).1).1 c hc
  obtain hspace | hbreak := isGap_cases hplain hgap
  · exact Or.inl hspace
  · have hkept := isKeptBreak_of_isBreak hplain hbreak
    rw [isKeptBreak, Bool.or_eq_true, decide_eq_true_eq] at hkept
    obtain rfl | hsep := hkept
    · exact absurd hc hline
    · exact Or.inr hsep

/-- What single quotes hold is read piece by piece. -/
theorem pieces_of_fitsSingleQuotes {s : List Char} (h : fitsSingleQuotes s = true)
    (hline : '\n' ∉ s) {column : Nat} (hcolumn : 0 < column) :
    Pieces .single (indentLines column singleQuotedChar true false s) s :=
  pieces_singleQuoted hcolumn (gaps_of_fitsSingleQuotes h hline)
    (forall_isPlainCharacter ((fitsSingleQuotes_iff s).1 h).1).2 ((fitsSingleQuotes_iff s).1 h).2

namespace Scan

/-- A text is read back as one token. -/
theorem leads_text {rest : List Char} (tokens : List Token) {indents : List Nat}
    (keyAllowed : Bool) {m n column : Nat} (h : AtValue indents m n column rest) (s : List Char) :
    Leads ⟨endLine (writeText (m + 2) s) ++ indentation n ++ rest, column, tokens, indents,
        keyAllowed⟩
      (arrival indents (tokens ++ [textToken s]) true n rest) := by
  have hstyled := styled s
  rw [writeText, textToken]
  cases hstyle : styleOf s <;> rw [hstyle] at hstyled <;> cases hstyled
  case plain hfits hne _ =>
    have hplain := isPlain_of_fitsPlain hfits hne
    have hline := leads_plain tokens keyAllowed h hplain
    dsimp only
    rw [endLine_line hplain.noBreak]
    simp only [List.append_assoc, List.cons_append] at hline ⊢
    exact hline
  case singleQuoted hfits hline =>
    have hpieces := pieces_of_fitsSingleQuotes hfits hline (Nat.succ_pos (m + 1))
    have hquoted := leads_quoted tokens keyAllowed h hpieces
    dsimp only
    rw [singleQuoted, endLine_concat (by decide)]
    simp only [List.append_assoc, List.cons_append] at hquoted ⊢
    exact hquoted
  case doubleQuoted =>
    have hquoted := leads_quoted tokens keyAllowed h (pieces_doubleQuoted s)
    dsimp only
    rw [doubleQuoted, endLine_concat (by decide)]
    simp only [List.append_assoc, List.cons_append] at hquoted ⊢
    exact hquoted
  case literal hfits hline =>
    have hne : s ≠ [] := List.ne_nil_of_mem hline
    dsimp only
    rw [endLine_literalBlock hne]
    exact leads_literal tokens keyAllowed h hne (fitsLines_of_fitsBlock hfits)

end Scan

/-! ## Texts as keys -/

theorem exists_digitChar_of_mem {base n : Nat} (hbase : 1 < base) {c : Char}
    (h : c ∈ Nat.toDigits base n) : ∃ d < base, c = Nat.digitChar d := by
  induction n using Nat.strongRecOn with
  | ind n ih =>
    rw [Nat.toDigits_eq_if hbase] at h
    split at h
    · rename_i hn
      exact ⟨n, hn, List.mem_singleton.1 h⟩
    · obtain h | h := List.mem_append.1 h
      · exact ih _ (Nat.div_lt_self (by omega) hbase) h
      · exact ⟨n % base, Nat.mod_lt n (by omega), List.mem_singleton.1 h⟩

/-- Characters that are written on a line of their own. -/
def isLineCharacter (c : Char) : Bool := isPlainCharacter c && !isBreak c

theorem isLineCharacter_of_mem_hexEscape {width n : Nat} {c : Char} (h : c ∈ hexEscape width n) :
    isLineCharacter c = true := by
  have hdigits : ∀ d < 16, isLineCharacter (if (Nat.digitChar d).toNat < 97 then Nat.digitChar d
      else Char.ofNat ((Nat.digitChar d).toNat - 32)) = true := by decide
  rw [hexEscape, padZeros] at h
  obtain h | h := List.mem_append.1 h
  · rw [List.eq_of_mem_replicate h]
    rfl
  · obtain ⟨x, hx, rfl⟩ := List.mem_map.1 h
    obtain ⟨d, hd, rfl⟩ := exists_digitChar_of_mem (by decide) hx
    exact hdigits d hd

/-- An escape is of ordinary characters, and not long. -/
theorem escapeChar_spec (c : Char) :
    (∀ x ∈ escapeChar c, isLineCharacter x = true) ∧ (escapeChar c).length ≤ 6 := by
  have hhex (letter : Char) (width : Nat) (hletter : isLineCharacter letter = true) :
      ∀ x ∈ '\\' :: letter :: hexEscape width c.toNat, isLineCharacter x = true := by
    intro x hx
    obtain rfl | hx := List.mem_cons.1 hx
    · rfl
    · obtain rfl | hx := List.mem_cons.1 hx
      · exact hletter
      · exact isLineCharacter_of_mem_hexEscape hx
  rw [escapeChar]
  cases hshort : shortEscape? c with
  | some letter =>
    have hletter : isLineCharacter letter = true := by
      unfold shortEscape? at hshort
      split at hshort
      case h_15 => cases hshort
      all_goals
        obtain rfl := Option.some.inj hshort
        rfl
    refine ⟨fun x hx => ?_, by simp⟩
    obtain rfl | hx := List.mem_cons.1 hx
    · rfl
    · rw [List.mem_singleton.1 hx]
      exact hletter
  | none =>
    dsimp only
    cases hplain : isPlainCharacter c with
    | true =>
      rw [if_pos rfl]
      refine ⟨fun x hx => ?_, by simp⟩
      rw [List.mem_singleton.1 hx, isLineCharacter, hplain, Bool.true_and, Bool.not_eq_true']
      by_cases hspace : c = ' '
      · rw [hspace]
        rfl
      · exact isBreak_of_not_isGap (noGap_of_isPlainCharacter hplain hshort hspace)
    | false =>
      rw [if_neg Bool.false_ne_true]
      split
      · rename_i hn
        refine ⟨hhex 'x' 2 rfl, ?_⟩
        rw [List.length_cons, List.length_cons,
          length_hexEscape (by decide) (Nat.lt_succ_of_le hn : c.toNat < 16 ^ 2)]
        decide
      · split
        · rename_i hn
          refine ⟨hhex 'u' 4 rfl, ?_⟩
          rw [List.length_cons, List.length_cons,
            length_hexEscape (by decide) (Nat.lt_succ_of_le hn : c.toNat < 16 ^ 4)]
        · rename_i hn
          have hlarge : isPlainCharacter c = true := by
            rw [isPlainCharacter]
            simp only [Bool.or_eq_true, decide_eq_true_eq]
            omega
          rw [hlarge] at hplain
          exact Bool.noConfusion hplain

theorem isBreak_of_mem_escapeChar {c d : Char} (h : d ∈ escapeChar c) : isBreak d = false := by
  have := (escapeChar_spec c).1 d h
  rw [isLineCharacter, Bool.and_eq_true, Bool.not_eq_true'] at this
  exact this.2

theorem length_flatMap_le {f : Char → List Char} {n : Nat} (h : ∀ c, (f c).length ≤ n)
    (s : List Char) : (s.flatMap f).length ≤ n * s.length := by
  induction s with
  | nil => exact Nat.zero_le _
  | cons c s ih =>
    rw [List.flatMap_cons, List.length_append, List.length_cons, Nat.mul_succ]
    have := h c
    omega

theorem indentLines_of_not_isBreak {s : List Char} (h : ∀ c ∈ s, isBreak c = false) (column : Nat)
    (write : Char → List Char) (last : Bool) :
    indentLines column write last false s = s.flatMap write := by
  induction s with
  | nil => rfl
  | cons c s ih =>
    rw [indentLines, h c List.mem_cons_self, if_neg Bool.false_ne_true, if_neg Bool.false_ne_true,
      ih fun d hd => h d (List.mem_cons_of_mem c hd), List.nil_append, List.flatMap_cons]

theorem length_singleQuotedChar_le (c : Char) : (singleQuotedChar c).length ≤ 2 := by
  rw [singleQuotedChar]
  split <;> simp

theorem length_le_flatMap_utf8 (s : List Char) :
    s.length ≤ (s.flatMap String.utf8EncodeChar).length := by
  induction s with
  | nil => exact Nat.zero_le _
  | cons c s ih =>
    have := List.length_pos_of_ne_nil (utf8EncodeChar_ne_nil c)
    rw [List.flatMap_cons, List.length_append, List.length_cons]
    omega

/-- A key on one line is short enough to be one. -/
theorem length_writeText_le {s : List Char} (h : isSimpleKey s = true) (column : Nat) :
    (writeText column s).length ≤ 1024 := by
  rw [isSimpleKey, Bool.and_eq_true, Bool.not_eq_true', List.any_eq_false, decide_eq_true_eq] at h
  have hbreaks : ∀ c ∈ s, isBreak c = false := fun c hc => Bool.eq_false_iff.2 (h.1 c hc)
  have hlength : s.length ≤ 128 := Nat.le_trans (length_le_flatMap_utf8 s) h.2
  have hstyled := styled s
  rw [writeText]
  cases hstyle : styleOf s <;> rw [hstyle] at hstyled <;> dsimp only
  case plain => omega
  case singleQuoted =>
    have := length_flatMap_le length_singleQuotedChar_le s
    rw [singleQuoted, indentLines_of_not_isBreak hbreaks, List.length_append, List.length_cons,
      List.length_singleton]
    omega
  case doubleQuoted =>
    have := length_flatMap_le (fun c => (escapeChar_spec c).2) s
    rw [doubleQuoted, List.length_append, List.length_cons, List.length_singleton]
    omega
  case literal =>
    cases hstyled with
    | literal _ hline =>
      have := hbreaks '\n' hline
      exact Bool.noConfusion this

namespace Scan

variable {s more : List Char} {tokens lead : List Token} {indents indents' : List Nat} {m : Nat}

/-- A key is read as one token, and its colon comes next. -/
theorem tokenHere?_key (hbreaks : ∀ c ∈ s, isBreak c = false) (hmore : startsWithGap more = true)
    (hleast : leastColumn indents ≤ m + 1) (width : Nat) (tokens : List Token)
    (index line settled : Nat) :
    (outside ⟨writeText (width + 1) s ++ ':' :: more, index, line, m⟩ tokens indents true none
        settled).tokenHere? =
      some (outside ⟨':' :: more, index + (writeText (width + 1) s).length, line,
          m + (writeText (width + 1) s).length⟩ (tokens ++ [textToken s]) indents false
        (some (pending ⟨writeText (width + 1) s ++ ':' :: more, index, line, m⟩ tokens indents))
        settled) := by
  have hstyled := styled s
  rw [writeText, textToken]
  cases hstyle : styleOf s <;> rw [hstyle] at hstyled <;> cases hstyled
  case plain hfits hne _ =>
    have hplain := isPlain_of_fitsPlain hfits hne
    have hdash := @atMarkLine_plain s (':' :: more) index line m hplain '-' (Or.inl rfl) (by simp)
    have hdot := @atMarkLine_plain s (':' :: more) index line m hplain '.' (Or.inr rfl) (by simp)
    have hmark : (⟨s ++ ':' :: more, index, line, m⟩ : Cursor).atDocumentMark = false := by
      rw [Cursor.atDocumentMark, hdash, hdot, Bool.or_false]
    have hread := @Cursor.plainScalar?_key (leastColumn indents) index line m more s hplain.words
      hplain.ne_nil (fun c hc => ⟨(hplain.head c hc).1,
        (ne_of_isLeadingIndicator (hplain.head c hc).2).1⟩) hmark hmore hleast
    obtain ⟨x, s, rfl⟩ := List.exists_cons_of_ne_nil hne
    exact (tokenAt?_plain hplain (by simp) (by simp) _ _ _ _ _).trans (plainScalar?_outside hread)
  case singleQuoted hfits hline =>
    have hpieces := pieces_of_fitsSingleQuotes hfits hline (Nat.succ_pos width)
    obtain ⟨behind, hbehind, hread⟩ := @quotedScalar?_pieces .single _ s (':' :: more) hpieces rfl
      index line m
    have hwritten : ∀ c ∈ '\'' :: indentLines (width + 1) singleQuotedChar true false s ++ ['\''],
        isBreak c = false := fun c hc => by
      obtain hc | hc := List.mem_append.1 hc
      · obtain rfl | hc := List.mem_cons.1 hc
        · rfl
        · exact isBreak_of_mem_indentLines hbreaks hc
      · rw [List.mem_singleton.1 hc]
        rfl
    rw [hbehind.one_line hwritten] at hread
    exact (tokenAt?_single _).trans (keyToken?_outside (congrArg _ hread))
  case doubleQuoted =>
    obtain ⟨behind, hbehind, hread⟩ := @quotedScalar?_pieces .double _ s (':' :: more)
      (pieces_doubleQuoted s) rfl index line m
    have hwritten : ∀ c ∈ '"' :: s.flatMap escapeChar ++ ['"'], isBreak c = false := fun c hc => by
      obtain hc | hc := List.mem_append.1 hc
      · obtain rfl | hc := List.mem_cons.1 hc
        · rfl
        · obtain ⟨d, -, hd⟩ := List.mem_flatMap.1 hc
          exact isBreak_of_mem_escapeChar hd
      · rw [List.mem_singleton.1 hc]
        rfl
    rw [hbehind.one_line hwritten] at hread
    exact (tokenAt?_double _).trans (keyToken?_outside (congrArg _ hread))
  case literal hfits hline =>
    have := hbreaks '\n' hline
    exact Bool.noConfusion this

theorem blockEnds_of_le {column : Nat} (h : ∀ n ∈ indents.head?, n ≤ column) :
    blockEnds (· ≤ column) indents = [] ∧
      indents.dropWhile (fun n => !decide (n ≤ column)) = indents := by
  cases indents with
  | nil => exact ⟨rfl, rfl⟩
  | cons n indents => simp [blockEnds, h n rfl]

/-- A key on one line, and its colon. -/
theorem leads_key (hopen : Opens .blockMapStart m indents lead indents') (hs : isSimpleKey s = true)
    (hmore : startsWithGap more = true) {g : Face} (hlength : g.rest.length < more.length)
    (hreach : ∀ index line settled, Reaches (outside
      ⟨more, index, line, m + (writeText (m + 2) s).length + 1⟩
      (tokens ++ lead ++ [.key, textToken s] ++ [.value]) indents' false none settled) g) :
    Leads ⟨writeText (m + 2) s ++ ':' :: more, m, tokens, indents, true⟩ g := by
  intro scan hscan
  obtain ⟨index, line, settled, hstep⟩ := hscan.step
  have hbreaks : ∀ c ∈ s, isBreak c = false := by
    rw [isSimpleKey, Bool.and_eq_true, Bool.not_eq_true', List.any_eq_false] at hs
    exact fun c hc => Bool.eq_false_iff.2 (hs.1 c hc)
  have hleast : leastColumn indents ≤ m + 1 := by
    rw [leastColumn]
    cases hhead : indents.head? with
    | none => exact Nat.zero_le _
    | some n => exact Nat.succ_le_succ (hopen.le n hhead)
  have hkey := tokenHere?_key hbreaks hmore hleast (m + 1) tokens index line settled
  have hrun := hstep _ hkey
  -- The key is still possible when its colon comes.
  let width := (writeText (m + 2) s).length
  let c : Cursor := ⟨':' :: more, index + width, line, m + width⟩
  let k := pending ⟨writeText (m + 2) s ++ ':' :: more, index, line, m⟩ tokens indents
  have hpossible : stillPossible c k = true := by
    have hwidth := length_writeText_le hs (m + 2)
    rw [stillPossible, Bool.and_eq_true, decide_eq_true_eq]
    exact ⟨beq_self_eq_true line, Nat.add_le_add_left hwidth index⟩
  have hkept : (some k).filter (stillPossible c) = some k := by
    rw [Option.filter_some, if_pos hpossible]
  have hnone : ∀ k' ∈ some k, stillPossible c k' = false → k'.required = false := by
    intro k' hk' himpossible
    rw [← Option.some.inj hk', hpossible] at himpossible
    exact Bool.noConfusion himpossible
  obtain ⟨settled', hsettle⟩ := settle?_outside (tokens ++ [textToken s]) indents false settled hnone
  have hstart : StartsToken (':' :: more) := startsToken_cons (by decide) more
  have hnext := @toNextToken?_outside c c (tokens ++ [textToken s]) indents false (some k) settled'
    false (skipGaps_start hstart _ _ _ _ _) hnone
  obtain ⟨hends, hindents⟩ := @blockEnds_of_le indents c.column fun n hn =>
    Nat.le_trans (hopen.le n hn) (Nat.le_add_right m width)
  rw [hends, hindents, hkept, List.append_nil] at hnext
  have hvalue : (outside c (tokens ++ [textToken s]) indents false (some k) settled').tokenHere? =
      some (outside (c.skip 1) (tokens ++ lead ++ [.key, textToken s] ++ [.value]) indents' false none
        settled') := (tokenAt?_value hmore).trans (value?_pending rfl hopen)
  have hstep' : (outside c (tokens ++ [textToken s]) indents false (some k) settled).settle?.bind
      step? = some (outside (c.skip 1) (tokens ++ lead ++ [.key, textToken s] ++ [.value]) indents'
        false none settled') := by
    rw [hsettle, hkept, Option.bind_some, step?_eq, hnext, Option.bind_some, hvalue]
  refine ⟨2, _, ?_, hreach (index + width + 1) line settled', fun fuel => ?_⟩
  · simp only [List.length_append, List.length_cons]
    omega
  · rw [hrun (fuel + 1), run_step rfl hstep']
    rfl

end Scan

end LoginGate.Yaml
