import LoginGate.Proofs.Json.WellFormed
import LoginGate.Proofs.Yaml.Brackets
import LoginGate.Proofs.Yaml.Texts
import LoginGate.Proofs.Text.Numerals

/-!
# Blocks, as they are written

The tokens of a value that is written in block style (`valueTokens`), and that the scanner reads just
these.  One line lemma for each kind of mark, then lists and objects entry by entry: every entry but
the last is followed by a line in the column of its block.
-/

namespace LoginGate.Yaml

open LoginGate.Text

/-! ## Tokens -/

def plainToken (s : List Char) : Token := .scalar s .plain

mutual

/-- The tokens of a value; a list under a key (`bare`) is not indented. -/
def valueTokens (bare : Bool) : Json → List Token
  | .list (v :: rest) =>
    if bare then itemTokens (v :: rest)
    else .blockListStart :: itemTokens (v :: rest) ++ [.blockEnd]
  | .object (m :: rest) => .blockMapStart :: memberTokens (m :: rest) ++ [.blockEnd]
  | .list [] => [.flowListStart, .flowListEnd]
  | .object [] => [.flowMapStart, .flowMapEnd]
  | .null => [plainToken "null".toList]
  | .bool true => [plainToken "true".toList]
  | .bool false => [plainToken "false".toList]
  | .number n => [plainToken n.text]
  | .text s => [textToken s.toList]

def itemTokens : List Json → List Token
  | [] => []
  | v :: rest => .blockEntry :: valueTokens false v ++ itemTokens rest

def memberTokens : List (String × Json) → List Token
  | [] => []
  | (key, v) :: rest =>
    [.key, textToken key.toList, .value] ++ valueTokens (isSimpleKey key.toList) v ++
      memberTokens rest

end

/-! ## Beginnings -/

def Begins (s : List Char) : Prop :=
  ∃ c, s.head? = some c ∧ isGap c = false ∧ c ≠ '#' ∧ isByteOrderMark c = false

theorem Begins.startsToken {s : List Char} (h : Begins s) (rest : List Char) :
    StartsToken (s ++ rest) := by
  obtain ⟨c, hc, h⟩ := h
  obtain ⟨s, rfl⟩ := List.head?_eq_some_iff.1 hc
  exact startsToken_cons h _

theorem Begins.ne_nil {s : List Char} (h : Begins s) : s ≠ [] := by
  rintro rfl
  obtain ⟨c, hc, -⟩ := h
  cases hc

theorem Begins.append {s : List Char} (h : Begins s) (rest : List Char) : Begins (s ++ rest) := by
  obtain ⟨c, hc, h⟩ := h
  obtain ⟨s, rfl⟩ := List.head?_eq_some_iff.1 hc
  exact ⟨c, rfl, h⟩

theorem begins_cons {c : Char} (h : isGap c = false ∧ c ≠ '#' ∧ isByteOrderMark c = false)
    (s : List Char) : Begins (c :: s) := ⟨c, rfl, h⟩

theorem isByteOrderMark_of_isPlainCharacter {c : Char} (h : isPlainCharacter c = true) :
    isByteOrderMark c = false := by
  rw [isByteOrderMark, decide_eq_false_iff_not]
  intro hc
  simp [isPlainCharacter, hc] at h

theorem begins_of_fitsPlain {s : List Char} (h : fitsPlain s = true) (hne : s ≠ []) :
    Begins s := by
  have hplain := isPlain_of_fitsPlain h hne
  obtain ⟨c, s, rfl⟩ := List.exists_cons_of_ne_nil hne
  obtain ⟨hgap, hleading⟩ := hplain.head c rfl
  exact begins_cons ⟨hgap, (Scan.ne_of_isLeadingIndicator hleading).1,
    isByteOrderMark_of_isPlainCharacter (((fitsPlain_iff _).1 h).1 c List.mem_cons_self)⟩ s

theorem begins_writeText (column : Nat) (s : List Char) : Begins (writeText column s) := by
  have hstyled := styled s
  rw [writeText]
  cases hstyle : styleOf s <;> rw [hstyle] at hstyled <;> cases hstyled
  case plain hfits hne _ => exact begins_of_fitsPlain hfits hne
  case singleQuoted => exact begins_cons (by decide) _
  case doubleQuoted => exact begins_cons (by decide) _
  case literal => exact begins_cons (by decide) _

theorem isDigit_spec {c : Char} (h : isDigit c = true) :
    isPlainCharacter c = true ∧ isGap c = false ∧ isLeadingIndicator c = false ∧
      c ≠ '?' ∧ c ≠ '-' ∧ c ≠ '.' ∧ c ≠ ':' ∧ c ≠ '#' :=
  of_forall_lt (P := fun c => isDigit c = true → isPlainCharacter c = true ∧ isGap c = false ∧
    isLeadingIndicator c = false ∧ c ≠ '?' ∧ c ≠ '-' ∧ c ≠ '.' ∧ c ≠ ':' ∧ c ≠ '#')
    (by decide) (lt_of_isDigit h) h

theorem fitsPlain_digits {s : List Char} (h : ∀ c ∈ s, isDigit c = true) : fitsPlain s = true := by
  have hhead (x : Char) (hx : isDigit x = false) : s.head? ≠ some x := fun hhead => by
    rw [h x (List.mem_of_mem_head? hhead)] at hx
    exact Bool.noConfusion hx
  have hlast (x : Char) (hx : isDigit x = false) : s.getLast? ≠ some x := fun hlast => by
    rw [h x (List.mem_of_getLast? hlast)] at hx
    exact Bool.noConfusion hx
  have hmark (x : Char) (hx : isDigit x = false) : dropPrefix? [x, x, x] s = none := by
    cases hdrop : dropPrefix? [x, x, x] s with
    | none => rfl
    | some rest =>
      have := eq_append_of_dropPrefix? hdrop
      rw [this] at hhead
      exact absurd rfl (hhead x hx)
  refine (fitsPlain_iff s).2 ⟨fun c hc => (isDigit_spec (h c hc)).1,
    fun c hc => isBreak_of_not_isGap (isDigit_spec (h c hc)).2.1,
    (hasIndicator_eq_false_iff s).2 ⟨hmark '-' rfl, hmark '.' rfl, ?_, ?_, hlast ':' rfl, ?_, ?_⟩,
    hhead ' ' rfl, hlast ' ' rfl⟩
  · cases hhead : s.head? with
    | none => rfl
    | some c => exact (isDigit_spec (h c (List.mem_of_mem_head? hhead))).2.2.1
  · rintro (hhead' | hhead')
    · exact absurd hhead' (hhead '?' rfl)
    · exact absurd hhead' (hhead '-' rfl)
  · exact anyNeighbours_eq_false fun a ha b hb => by
      rw [decide_eq_false (isDigit_spec (h a ha)).2.2.2.2.2.2.1, Bool.false_and]
  · exact anyNeighbours_eq_false fun a ha b hb => by
      rw [(isDigit_spec (h a ha)).2.1, Bool.false_and]

theorem fitsPlain_decimal (n : Nat) : fitsPlain (decimal n) = true :=
  fitsPlain_digits fun _ hc => isDigit_of_mem_decimal hc

/-! ## Scalars -/

/-- Is the value written over several lines, below its mark or key? -/
def isBlock : Json → Bool
  | .list (_ :: _) => true
  | .object (_ :: _) => true
  | _ => false

variable {depth : Nat} {v : Json}

theorem begins_scalar (hv : v.Tidy depth) (hblock : isBlock v = false) (column : Nat) :
    Begins (writeInPlace column v) := by
  cases hv with
  | null => exact begins_cons (by decide) _
  | bool b => cases b <;> exact begins_cons (by decide) _
  | @number _ n =>
    show Begins (Json.Number.whole n).text
    rw [Json.text_ofNat]
    exact begins_of_fitsPlain (fitsPlain_decimal n) (decimal_ne_nil n)
  | text s => exact begins_writeText column _
  | @list _ items =>
    cases items with
    | nil => exact begins_cons (by decide) _
    | cons => cases hblock
  | @object _ members =>
    cases members with
    | nil => exact begins_cons (by decide) _
    | cons => cases hblock

namespace Scan

theorem leads_scalar (hv : v.Tidy depth) (hblock : isBlock v = false) {rest : List Char}
    {indents : List Nat} {m n column : Nat} (h : AtValue indents m n column rest)
    (tokens : List Token) (keyAllowed bare : Bool) :
    Leads ⟨endLine (writeInPlace (m + 2) v) ++ indentation n ++ rest, column, tokens, indents,
        keyAllowed⟩
      (arrival indents (tokens ++ valueTokens bare v) true n rest) := by
  have hplain {s : List Char} (hfits : fitsPlain s = true) (hne : s ≠ []) :
      Leads ⟨endLine s ++ indentation n ++ rest, column, tokens, indents, keyAllowed⟩
        (arrival indents (tokens ++ [plainToken s]) true n rest) := by
    have hs := isPlain_of_fitsPlain hfits hne
    have hleads := leads_plain tokens keyAllowed h hs
    rw [endLine_line hs.noBreak]
    simp only [List.append_assoc, List.cons_append] at hleads ⊢
    exact hleads
  cases hv with
  | null => exact @hplain "null".toList (by decide) (by decide)
  | bool b =>
    cases b
    · exact @hplain "false".toList (by decide) (by decide)
    · exact @hplain "true".toList (by decide) (by decide)
  | @number _ k =>
    show Leads ⟨endLine (Json.Number.whole k).text ++ _ ++ _, _, _, _, _⟩
      (arrival indents (tokens ++ [plainToken (Json.Number.whole k).text]) true n rest)
    rw [Json.text_ofNat]
    exact hplain (fitsPlain_decimal k) (decimal_ne_nil k)
  | text s => exact leads_text tokens keyAllowed h s.toList
  | @list _ items =>
    cases items with
    | nil => exact leads_brackets squarePair tokens keyAllowed h
    | cons => cases hblock
  | @object _ members =>
    cases members with
    | nil => exact leads_brackets curlyPair tokens keyAllowed h
    | cons => cases hblock

/-! ## Marks -/

theorem reaches_space {text : List Char} {indents : List Nat} {m index line column settled : Nat}
    {keyAllowed : Bool} (hindents : indents.head? = some m) (hm : m ≤ column)
    (htext : StartsToken text) (tokens : List Token) :
    Reaches (outside ⟨' ' :: text, index, line, column⟩ tokens indents keyAllowed none settled)
      ⟨text, column + 1, tokens, indents, keyAllowed⟩ := by
  have hreach := @reaches_outside ⟨' ' :: text, index, line, column⟩
    ⟨text, index + 1, line, column + 1⟩ tokens indents keyAllowed none settled keyAllowed
    (skipGaps_spaces htext _ 1 keyAllowed index line column) fun k hk => by cases hk
  rwa [arrival_of_le] at hreach
  intro n hn
  rw [hindents] at hn
  rw [← Option.some.inj hn]
  exact Nat.le_succ_of_le hm

theorem reaches_line {text : List Char} {indents : List Nat} {n index line column settled : Nat}
    {keyAllowed : Bool} (htext : StartsToken text) (tokens : List Token) :
    Reaches (outside ⟨'\n' :: indentation n ++ text, index, line, column⟩ tokens indents keyAllowed
      none settled) (arrival indents tokens true n text) :=
  @reaches_outside ⟨'\n' :: indentation n ++ text, index, line, column⟩
    ⟨text, index + 1 + n, line + 1, n⟩ tokens indents keyAllowed none settled true
    (skipGaps_newline htext _ n keyAllowed index line column) fun k hk => by cases hk

theorem leads_mark {x : Char} {text : List Char} {m : Nat} {tokens tokens' : List Token}
    {indents indents' : List Nat}
    (hmark : ∀ index line settled,
      (outside ⟨x :: ' ' :: text, index, line, m⟩ tokens indents true none settled).tokenAt? x =
        some (outside ⟨' ' :: text, index + 1, line, m + 1⟩ tokens' indents' true none settled))
    (hindents : indents'.head? = some m) (htext : StartsToken text) :
    Leads ⟨x :: ' ' :: text, m, tokens, indents, true⟩ ⟨text, m + 2, tokens', indents', true⟩ := by
  refine leads_of_token ?_ fun index line settled => ?_
  · simp only [List.length_cons]
    omega
  · exact ⟨_, hmark index line settled, reaches_space hindents (Nat.le_succ m) htext tokens'⟩

variable {text rest : List Char} {tokens lead : List Token} {indents indents' : List Nat} {m n : Nat}

theorem leads_entry (h : Opens .blockListStart m indents lead indents') (htext : StartsToken text)
    (tokens : List Token) :
    Leads ⟨'-' :: ' ' :: text, m, tokens, indents, true⟩
      ⟨text, m + 2, tokens ++ lead ++ [.blockEntry], indents', true⟩ :=
  leads_mark (fun _ _ _ => (tokenAt?_entry _).trans (blockEntry?_outside h)) h.head? htext

theorem leads_keyMark (h : Opens .blockMapStart m indents lead indents')
    (htext : StartsToken text) (tokens : List Token) :
    Leads ⟨'?' :: ' ' :: text, m, tokens, indents, true⟩
      ⟨text, m + 2, tokens ++ lead ++ [.key], indents', true⟩ :=
  leads_mark (fun _ _ _ => (tokenAt?_key _).trans (key?_outside h)) h.head? htext

theorem leads_valueMark (htext : StartsToken text) (tokens : List Token) (indents : List Nat) :
    Leads ⟨':' :: ' ' :: text, m, tokens, m :: indents, true⟩
      ⟨text, m + 2, tokens ++ [.value], m :: indents, true⟩ :=
  leads_mark (fun _ _ _ => (tokenAt?_value rfl).trans value?_outside) rfl htext

end Scan

/-! ## Entries -/

theorem endLine_eq (s : List Char) : ∃ e, endLine s = s ++ e := by
  rw [endLine]
  split
  · exact ⟨[], (List.append_nil s).symm⟩
  · exact ⟨['\n'], rfl⟩

theorem Begins.endLine {s : List Char} (h : Begins s) : Begins (endLine s) := by
  obtain ⟨e, he⟩ := endLine_eq s
  rw [he]
  exact h.append e

theorem endLine_cons_cons {s : List Char} (h : s ≠ []) (a b : Char) :
    endLine (a :: b :: s) = a :: b :: endLine s := @endLine_append [a, b] s h

theorem begins_writeEntries {column : Nat} {entries : List (List Char)} (hne : entries ≠ [])
    (h : ∀ entry ∈ entries, Begins entry) : Begins (writeEntries column entries) := by
  match entries, hne with
  | [entry], _ => exact h entry List.mem_cons_self
  | entry :: next :: more, _ =>
    rw [writeEntries, List.append_assoc]
    · exact (h entry List.mem_cons_self).endLine.append _
    · simp

/-- Each entry but the last is followed by a line in the column of the block. -/
theorem endLine_writeEntries {column : Nat} (entry : List Char) {entries : List (List Char)}
    (hne : entries ≠ []) (h : ∀ entry ∈ entries, Begins entry) :
    endLine (writeEntries column (entry :: entries)) =
      endLine entry ++ indentation column ++ endLine (writeEntries column entries) := by
  have hwritten : writeEntries column (entry :: entries) =
      endLine entry ++ indentation column ++ writeEntries column entries := by
    cases entries with
    | nil => exact absurd rfl hne
    | cons next entries =>
      rw [writeEntries]
      simp
  rw [hwritten, endLine_append (begins_writeEntries hne h).ne_nil]

theorem begins_of_mem_writeItems {column : Nat} {items : List Json} {entry : List Char}
    (h : entry ∈ writeItems column items) : Begins entry := by
  induction items with
  | nil => cases h
  | cons v items ih =>
    obtain rfl | h := List.mem_cons.1 h
    · exact begins_cons (by decide) _
    · exact ih h

theorem begins_of_mem_writeMembers {column : Nat} {members : List (String × Json)}
    {entry : List Char} (h : entry ∈ writeMembers column members) : Begins entry := by
  induction members with
  | nil => cases h
  | cons member members ih =>
    obtain ⟨key, v⟩ := member
    obtain rfl | h := List.mem_cons.1 h
    · split
      · exact (begins_writeText _ _).append _
      · exact (begins_cons (by decide) _).endLine.append _ |>.append _
    · exact ih h

theorem begins_writeInPlace (hv : v.Tidy depth) (column : Nat) :
    Begins (writeInPlace column v) := by
  cases hblock : isBlock v with
  | false => exact begins_scalar hv hblock column
  | true =>
    cases hv with
    | null => cases hblock
    | bool => cases hblock
    | number => cases hblock
    | text => cases hblock
    | @list _ items =>
      cases items with
      | nil => cases hblock
      | cons v items =>
        exact begins_writeEntries (List.cons_ne_nil _ _) fun _ => begins_of_mem_writeItems
    | @object _ members =>
      cases members with
      | nil => cases hblock
      | cons m members =>
        exact begins_writeEntries (List.cons_ne_nil _ _) fun _ => begins_of_mem_writeMembers

/-! ## Behind a key -/

theorem writeAfterKey_scalar (hv : v.Tidy depth) (hblock : isBlock v = false) (m : Nat) :
    writeAfterKey m v = ':' :: ' ' :: writeInPlace (m + 2) v := by
  cases hv with
  | null => rfl
  | bool b => cases b <;> rfl
  | number => rfl
  | text => rfl
  | @list _ items =>
    cases items with
    | nil => rfl
    | cons => cases hblock
  | @object _ members =>
    cases members with
    | nil => rfl
    | cons => cases hblock

theorem writeAfterKey_list (m : Nat) (w : Json) (items : List Json) :
    writeAfterKey m (.list (w :: items)) =
      ':' :: '\n' :: indentation m ++ writeEntries m (writeItems m (w :: items)) := rfl

theorem writeAfterKey_object (m : Nat) (first : String × Json) (members : List (String × Json)) :
    writeAfterKey m (.object (first :: members)) = ':' :: '\n' :: indentation (m + 2) ++
      writeEntries (m + 2) (writeMembers (m + 2) (first :: members)) := rfl

namespace Scan

variable {rest : List Char} {lead : List Token} {indents indents' : List Nat} {m n : Nat}

/-- The value is read back where it stands behind a mark. -/
def ReadInPlace (v : Json) : Prop :=
  ∀ (tokens : List Token) (indents : List Nat) (m n : Nat) (rest : List Char),
    AtValue indents m n (m + 2) rest →
      Leads ⟨endLine (writeInPlace (m + 2) v) ++ indentation n ++ rest, m + 2, tokens, indents, true⟩
        (arrival indents (tokens ++ valueTokens false v) true n rest)

/-! ## Lists -/

theorem leads_item (hv : v.Tidy depth) (hread : ReadInPlace v)
    (h : Opens .blockListStart m indents lead indents') (hn : n ≤ m) (hrest : StartsToken rest)
    (tokens : List Token) :
    Leads ⟨endLine ('-' :: ' ' :: writeInPlace (m + 2) v) ++ indentation n ++ rest, m, tokens,
        indents, true⟩
      (arrival indents' (tokens ++ lead ++ .blockEntry :: valueTokens false v) true n rest) := by
  have hbegins := begins_writeInPlace hv (m + 2)
  have hvalue := hread (tokens ++ lead ++ [.blockEntry]) indents' m n rest
    ⟨h.head?, by omega, hn, hrest⟩
  have hmark := leads_entry h ((hbegins.endLine.append (indentation n)).startsToken rest) tokens
  rw [endLine_cons_cons hbegins.ne_nil]
  refine hmark.trans ?_
  rw [List.append_assoc _ [Token.blockEntry], List.singleton_append] at hvalue
  exact hvalue

/-- A next entry of the open block. -/
theorem arrival_of_head? {tokens : List Token} (h : indents.head? = some m) :
    arrival indents tokens true m rest = ⟨rest, m, tokens, indents, true⟩ :=
  arrival_of_le (fun n hn => by
    rw [h] at hn
    exact Nat.le_of_eq (Option.some.inj hn).symm) rest

theorem Opens.again {t : Token} (h : Opens t m indents lead indents') :
    Opens t m indents' [] indents' := by
  cases h <;> exact .stays

theorem leads_items {items : List Json} (hne : items ≠ []) (htidy : ∀ v ∈ items, v.Tidy depth)
    (hread : ∀ v ∈ items, ReadInPlace v) (h : Opens .blockListStart m indents lead indents')
    (hn : n ≤ m) (hrest : StartsToken rest) (tokens : List Token) :
    Leads ⟨endLine (writeEntries m (writeItems m items)) ++ indentation n ++ rest, m, tokens, indents,
        true⟩
      (arrival indents' (tokens ++ lead ++ itemTokens items) true n rest) := by
  induction items generalizing indents lead tokens with
  | nil => exact absurd rfl hne
  | cons v items ih =>
    have hv := htidy v List.mem_cons_self
    have hv' := hread v List.mem_cons_self
    cases items with
    | nil =>
      have hitem := leads_item hv hv' h hn hrest tokens
      rw [itemTokens, itemTokens, List.append_nil]
      exact hitem
    | cons w items =>
      have hbegins : ∀ entry ∈ writeItems m (w :: items), Begins entry := fun _ =>
        begins_of_mem_writeItems
      have hnext : writeItems m (w :: items) ≠ [] := List.cons_ne_nil _ _
      have hstart := (@begins_writeEntries m _ hnext hbegins).endLine
      have hitem := leads_item hv hv' h (Nat.le_refl m)
        ((hstart.append (indentation n)).startsToken rest) tokens
      have hmore := ih (List.cons_ne_nil w items) (fun x hx => htidy x (List.mem_cons_of_mem v hx))
        (fun x hx => hread x (List.mem_cons_of_mem v hx)) h.again
        (tokens ++ lead ++ .blockEntry :: valueTokens false v)
      rw [arrival_of_head? h.head?] at hitem
      rw [writeItems, endLine_writeEntries _ hnext hbegins, itemTokens]
      simp only [List.append_assoc, List.append_nil, List.cons_append] at hitem hmore ⊢
      exact hitem.trans hmore

/-! ## Objects -/

/-- The value is read back behind a key on one line. -/
def ReadAfterKey (v : Json) : Prop :=
  ∀ (key : List Char) (tokens lead : List Token) (indents indents' : List Nat) (m n : Nat)
    (rest : List Char), isSimpleKey key = true → Opens .blockMapStart m indents lead indents' →
      n ≤ m → StartsToken rest →
        Leads ⟨endLine (writeText (m + 2) key ++ writeAfterKey m v) ++ indentation n ++ rest, m, tokens,
            indents, true⟩
          (arrival indents' (tokens ++ lead ++ [.key, textToken key, .value] ++ valueTokens true v)
            true n rest)

theorem leads_member {key : List Char} (hv : v.Tidy depth) (hplace : ReadInPlace v)
    (hafter : ReadAfterKey v) (h : Opens .blockMapStart m indents lead indents') (hn : n ≤ m)
    (hrest : StartsToken rest) (tokens : List Token) :
    Leads ⟨endLine (if isSimpleKey key then writeText (m + 2) key ++ writeAfterKey m v
        else endLine ('?' :: ' ' :: writeText (m + 2) key) ++ indentation m ++
          ':' :: ' ' :: writeInPlace (m + 2) v) ++ indentation n ++ rest, m, tokens, indents, true⟩
      (arrival indents' (tokens ++ lead ++ ([.key, textToken key, .value] ++
        valueTokens (isSimpleKey key) v)) true n rest) := by
  rw [← List.append_assoc (tokens ++ lead)]
  cases hs : isSimpleKey key with
  | true => exact hafter key tokens lead indents indents' m n rest hs h hn hrest
  | false =>
    have hbegins := begins_writeInPlace hv (m + 2)
    have hkey := begins_writeText (m + 2) key
    obtain ⟨indents'', rfl⟩ := List.head?_eq_some_iff.1 h.head?
    rw [if_neg Bool.false_ne_true, endLine_append (List.cons_ne_nil _ _),
      endLine_cons_cons hbegins.ne_nil, endLine_cons_cons hkey.ne_nil]
    -- The key behind its mark, then the mark of the value, then the value.
    have hcolon : StartsToken (':' :: ' ' :: (endLine (writeInPlace (m + 2) v) ++ indentation n ++
      rest)) := startsToken_cons (by decide) _
    have hmark := leads_keyMark h ((hkey.endLine.append (indentation m)).startsToken (':' :: ' ' ::
      (endLine (writeInPlace (m + 2) v) ++ indentation n ++ rest))) tokens
    have htext := leads_text (tokens ++ lead ++ [.key]) true
      (⟨h.head?, by omega, Nat.le_refl m, hcolon⟩ : AtValue (m :: indents'') m m (m + 2) _) key
    have hvalue := @leads_valueMark (endLine (writeInPlace (m + 2) v) ++ indentation n ++ rest) m
      ((hbegins.endLine.append (indentation n)).startsToken rest)
      (tokens ++ lead ++ [.key] ++ [textToken key]) indents''
    have hread := hplace (tokens ++ lead ++ [.key] ++ [textToken key] ++ [.value]) (m :: indents'') m
      n rest ⟨rfl, by omega, hn, hrest⟩
    rw [arrival_of_head? rfl] at htext
    simp only [List.append_assoc, List.cons_append, List.nil_append] at hmark htext hvalue hread ⊢
    exact hmark.trans (htext.trans (hvalue.trans hread))

theorem leads_members {members : List (String × Json)} (hne : members ≠ [])
    (htidy : ∀ member ∈ members, member.2.Tidy depth)
    (hplace : ∀ member ∈ members, ReadInPlace member.2)
    (hafter : ∀ member ∈ members, ReadAfterKey member.2)
    (h : Opens .blockMapStart m indents lead indents') (hn : n ≤ m) (hrest : StartsToken rest)
    (tokens : List Token) :
    Leads ⟨endLine (writeEntries m (writeMembers m members)) ++ indentation n ++ rest, m, tokens,
        indents, true⟩
      (arrival indents' (tokens ++ lead ++ memberTokens members) true n rest) := by
  induction members generalizing indents lead tokens with
  | nil => exact absurd rfl hne
  | cons member members ih =>
    obtain ⟨key, v⟩ := member
    have hv := htidy _ List.mem_cons_self
    have hplace' := hplace _ List.mem_cons_self
    have hafter' := hafter _ List.mem_cons_self
    cases members with
    | nil =>
      have hmember := @leads_member _ _ _ _ _ _ _ _ key.toList hv hplace' hafter' h hn hrest tokens
      rw [memberTokens, memberTokens, List.append_nil]
      exact hmember
    | cons next members =>
      have hbegins : ∀ entry ∈ writeMembers m (next :: members), Begins entry := fun _ =>
        begins_of_mem_writeMembers
      have hnext : writeMembers m (next :: members) ≠ [] := List.cons_ne_nil _ _
      have hstart := (@begins_writeEntries m _ hnext hbegins).endLine
      have hmember := @leads_member _ _ _ _ _ _ _ _ key.toList hv hplace' hafter' h (Nat.le_refl m)
        ((hstart.append (indentation n)).startsToken rest) tokens
      have hmore := ih (List.cons_ne_nil next members)
        (fun x hx => htidy x (List.mem_cons_of_mem _ hx))
        (fun x hx => hplace x (List.mem_cons_of_mem _ hx))
        (fun x hx => hafter x (List.mem_cons_of_mem _ hx)) h.again
        (tokens ++ lead ++ ([.key, textToken key.toList, .value] ++
          valueTokens (isSimpleKey key.toList) v))
      rw [arrival_of_head? h.head?] at hmember
      rw [writeMembers, endLine_writeEntries _ hnext hbegins, memberTokens]
      simp only [List.append_assoc, List.append_nil, List.cons_append, List.nil_append]
        at hmember hmore ⊢
      exact hmember.trans hmore

/-! ## Values -/

theorem read_scalar (hv : v.Tidy depth) (hblock : isBlock v = false) :
    ReadInPlace v ∧ ReadAfterKey v := by
  refine ⟨fun tokens indents m n rest h => leads_scalar hv hblock h tokens true false, ?_⟩
  intro key tokens lead indents indents' m n rest hs h hn hrest
  have hbegins := begins_scalar hv hblock (m + 2)
  have hstart := (hbegins.endLine.append (indentation n)).startsToken rest
  let tokens' := tokens ++ lead ++ [.key, textToken key] ++ [.value]
  have hkey := @leads_key key (' ' :: (endLine (writeInPlace (m + 2) v) ++ indentation n ++ rest))
    tokens lead indents indents' m h hs rfl
    ⟨endLine (writeInPlace (m + 2) v) ++ indentation n ++ rest,
      m + (writeText (m + 2) key).length + 1 + 1, tokens', indents', false⟩
    (Nat.lt_succ_self _) fun index line settled => reaches_space h.head? (by omega) hstart tokens'
  have hvalue := leads_scalar hv hblock (⟨h.head?, by omega, hn, hrest⟩ : AtValue indents' m n
    (m + (writeText (m + 2) key).length + 1 + 1) rest) tokens' false true
  rw [writeAfterKey_scalar hv hblock, endLine_append (List.cons_ne_nil _ _),
    endLine_cons_cons hbegins.ne_nil]
  simp only [tokens', List.append_assoc, List.cons_append, List.nil_append] at hkey hvalue ⊢
  exact hkey.trans hvalue

theorem read_list {w : Json} {items : List Json} (htidy : ∀ v ∈ w :: items, v.Tidy depth)
    (hread : ∀ v ∈ w :: items, ReadInPlace v) :
    ReadInPlace (.list (w :: items)) ∧ ReadAfterKey (.list (w :: items)) := by
  have hne : w :: items ≠ [] := List.cons_ne_nil w items
  have hbegins (m : Nat) : Begins (writeEntries m (writeItems m (w :: items))) :=
    begins_writeEntries (List.cons_ne_nil _ _) fun _ => begins_of_mem_writeItems
  constructor
  · intro tokens indents m n rest h
    have hopens : Opens .blockListStart (m + 2) indents [.blockListStart] ((m + 2) :: indents) :=
      .opens fun k hk => by
        rw [h.head?] at hk
        rw [← Option.some.inj hk]
        omega
    have hle := h.le
    have hitems := leads_items hne htidy hread hopens (show n ≤ m + 2 by omega) h.starts tokens
    rw [arrival_of_lt (show n < m + 2 by omega)] at hitems
    simp only [List.append_assoc, List.cons_append, List.nil_append] at hitems
    rw [valueTokens, if_neg Bool.false_ne_true]
    simp only [List.append_assoc, List.cons_append]
    exact hitems
  · intro key tokens lead indents indents' m n rest hs h hn hrest
    let tokens' := tokens ++ lead ++ [.key, textToken key] ++ [.value]
    let text := endLine (writeEntries m (writeItems m (w :: items))) ++ indentation n ++ rest
    have hstart : StartsToken text := (((hbegins m).endLine).append (indentation n)).startsToken rest
    have hkey := @leads_key key ('\n' :: indentation m ++ text) tokens lead indents indents' m h hs rfl
      (arrival indents' tokens' true m text)
      (by simp only [arrival, List.cons_append, List.length_cons, List.length_append]; omega)
      fun index line settled => reaches_line hstart tokens'
    rw [arrival_of_head? h.head?] at hkey
    obtain ⟨indents'', rfl⟩ := List.head?_eq_some_iff.1 h.head?
    have hitems := leads_items hne htidy hread
      (.stays : Opens .blockListStart m (m :: indents'') [] _) hn hrest tokens'
    rw [writeAfterKey_list, ← List.append_assoc, endLine_append (hbegins m).ne_nil, valueTokens,
      if_pos rfl]
    simp only [tokens', text, List.append_assoc, List.cons_append, List.nil_append]
      at hkey hitems ⊢
    exact hkey.trans hitems

theorem read_object {first : String × Json} {members : List (String × Json)}
    (htidy : ∀ member ∈ first :: members, member.2.Tidy depth)
    (hplace : ∀ member ∈ first :: members, ReadInPlace member.2)
    (hafter : ∀ member ∈ first :: members, ReadAfterKey member.2) :
    ReadInPlace (.object (first :: members)) ∧ ReadAfterKey (.object (first :: members)) := by
  have hne : first :: members ≠ [] := List.cons_ne_nil first members
  have hbegins (m : Nat) : Begins (writeEntries m (writeMembers m (first :: members))) :=
    begins_writeEntries (List.cons_ne_nil _ _) fun _ => begins_of_mem_writeMembers
  have hopens {indents : List Nat} {m : Nat} (h : indents.head? = some m) :
      Opens .blockMapStart (m + 2) indents [.blockMapStart] ((m + 2) :: indents) :=
    .opens fun k hk => by
      rw [h] at hk
      rw [← Option.some.inj hk]
      omega
  constructor
  · intro tokens indents m n rest h
    have hle := h.le
    have hmembers := leads_members hne htidy hplace hafter (hopens h.head?)
      (show n ≤ m + 2 by omega) h.starts tokens
    rw [arrival_of_lt (show n < m + 2 by omega)] at hmembers
    simp only [List.append_assoc, List.cons_append, List.nil_append] at hmembers
    rw [valueTokens]
    simp only [List.append_assoc, List.cons_append]
    exact hmembers
  · intro key tokens lead indents indents' m n rest hs h hn hrest
    let tokens' := tokens ++ lead ++ [.key, textToken key] ++ [.value]
    let text := endLine (writeEntries (m + 2) (writeMembers (m + 2) (first :: members))) ++
      indentation n ++ rest
    have hstart : StartsToken text :=
      (((hbegins (m + 2)).endLine).append (indentation n)).startsToken rest
    have hkey := @leads_key key ('\n' :: indentation (m + 2) ++ text) tokens lead indents indents' m h
      hs rfl (arrival indents' tokens' true (m + 2) text)
      (by simp only [arrival, List.cons_append, List.length_cons, List.length_append]; omega)
      fun index line settled => reaches_line hstart tokens'
    rw [arrival_of_le (fun k hk => by
      rw [h.head?] at hk
      rw [← Option.some.inj hk]
      omega)] at hkey
    have hmembers := leads_members hne htidy hplace hafter (hopens h.head?)
      (show n ≤ m + 2 by omega) hrest tokens'
    rw [arrival_of_lt (show n < m + 2 by omega)] at hmembers
    rw [writeAfterKey_object, ← List.append_assoc, endLine_append (hbegins (m + 2)).ne_nil,
      valueTokens]
    simp only [tokens', text, List.append_assoc, List.cons_append, List.nil_append]
      at hkey hmembers ⊢
    exact hkey.trans hmembers

/-- Every tidy value is read back. -/
theorem read_tidy (hv : v.Tidy depth) : ReadInPlace v ∧ ReadAfterKey v := by
  induction hv with
  | null => exact read_scalar (.null : Json.Tidy 0 _) rfl
  | bool b => exact read_scalar (.bool b : Json.Tidy 0 _) rfl
  | number h => exact read_scalar (.number h : Json.Tidy 0 _) rfl
  | text s => exact read_scalar (.text s : Json.Tidy 0 _) rfl
  | @list depth items htidy ih =>
    cases items with
    | nil => exact read_scalar (.list htidy) rfl
    | cons w items => exact read_list htidy fun v hv => (ih v hv).1
  | @object depth members hascending htidy ih =>
    cases members with
    | nil => exact read_scalar (.object hascending htidy) rfl
    | cons first members =>
      exact read_object htidy (fun member hm => (ih member hm).1) fun member hm => (ih member hm).2

end Scan

end LoginGate.Yaml
