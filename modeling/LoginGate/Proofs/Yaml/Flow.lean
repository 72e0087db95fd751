import Mathlib.Data.Bool.AllAny
import LoginGate.Proofs.Yaml.Brackets
import LoginGate.Proofs.Yaml.Numbers

/-!
# The scanner in flow style

Between brackets no blocks open or close and nothing stands between two tokens, so what decides which
tokens come next is a `Spot`: what is still to be read, the tokens so far, whether a key may begin,
and how many brackets are open.  The places of possible keys are noted on the way, but none of them
is waited for:

    Stands s f       the scan `s` stands at the spot `f`
    Passes f g       a scan that stands at `f` gets to one that stands at `g`, in no more steps than
                     the characters between them
-/

namespace LoginGate.Yaml

open LoginGate.Text

namespace Scan

/-- A scan in flow style, on no block. -/
def flow (c : Cursor) (tokens : List Token) (keyAllowed : Bool) (keys : List (Option PendingKey))
    (settled : Nat) : Scan where
  cursor := c
  tokens := tokens.toArray
  keyAllowed := keyAllowed
  keys := keys
  settled := settled

/-- No key is waited for. -/
def NoneRequired (keys : List (Option PendingKey)) : Prop :=
  ∀ k ∈ keys, ∀ key ∈ k, key.required = false

/-- The places where a key may still have begun. -/
def possible (c : Cursor) (keys : List (Option PendingKey)) : List (Option PendingKey) :=
  keys.map fun k => k.filter (stillPossible c)

variable {c : Cursor} {tokens : List Token} {keyAllowed : Bool} {k k' : Option PendingKey}
  {keys : List (Option PendingKey)} {settled : Nat} {t : Token}

theorem NoneRequired.possible (h : NoneRequired keys) (c : Cursor) :
    NoneRequired (possible c keys) := by
  intro k hk key hkey
  obtain ⟨k', hk', rfl⟩ := List.mem_map.1 hk
  exact h k' hk' key (Option.mem_filter_iff.1 hkey).1

theorem NoneRequired.cons (hk : ∀ key ∈ k, key.required = false) (h : NoneRequired keys) :
    NoneRequired (k :: keys) := fun k' hk' => (List.mem_cons.1 hk').elim (fun heq => heq ▸ hk) (h k')

theorem NoneRequired.tail (h : NoneRequired (k :: keys)) : NoneRequired keys := fun k' hk' =>
  h k' (List.mem_cons_of_mem k hk')

theorem possible_possible (c : Cursor) (keys : List (Option PendingKey)) :
    possible c (possible c keys) = possible c keys := by
  rw [possible, possible, List.map_map]
  refine List.map_congr_left fun k _ => ?_
  cases k with
  | none => rfl
  | some key => cases h : stillPossible c key <;> simp [Option.filter, h]

/-! ## Between two tokens -/

theorem dropStaleKeys?_flow (h : NoneRequired keys) :
    (flow c tokens keyAllowed keys settled).dropStaleKeys? =
      some (flow c tokens keyAllowed (possible c keys) settled) := by
  rw [dropStaleKeys?, if_neg]
  · rfl
  · rw [Bool.not_eq_true, List.any_eq_false]
    intro k hk hany
    obtain ⟨key, hkey, hrequired⟩ := (Option.any_eq_true _ _).1 hany
    rw [h k hk key hkey, Bool.and_false] at hrequired
    cases hrequired

theorem settle?_flow (h : NoneRequired keys) : ∃ settled',
    (flow c tokens keyAllowed keys settled).settle? =
      some (flow c tokens keyAllowed (possible c keys) settled') := by
  rw [settle?, dropStaleKeys?_flow h]
  exact ⟨_, rfl⟩

theorem skipGaps_token {inFlow : Bool} {fuel : Nat} (h : StartsToken c.rest) :
    skipGaps inFlow (fuel + 1) keyAllowed c = (keyAllowed, c) := by
  obtain ⟨rest, index, line, column⟩ := c
  have hwhite : EndsRun (fun x => x = ' ' || ((inFlow || !keyAllowed) && x = '\t')) rest :=
    fun x hx => by
      have := isWhite_of_not_isGap (h x hx).1
      rw [isWhite, Bool.or_eq_false_iff] at this
      show (decide (x = ' ') || ((inFlow || !keyAllowed) && decide (x = '\t'))) = false
      rw [this.1, this.2, Bool.and_false, Bool.or_false]
  rw [skipGaps]
  cases rest with
  | nil =>
    simp [Cursor.sees, Cursor.skipWhile, Cursor.span, Cursor.skipComment, Cursor.startsWith,
      Cursor.skip]
  | cons x rest =>
    obtain ⟨hgap, hcomment, hmark⟩ := h x rfl
    have hsees (p : Char → Bool) : (⟨x :: rest, index, line, column⟩ : Cursor).sees p = p x := rfl
    have hstarts : (⟨x :: rest, index, line, column⟩ : Cursor).startsWith '#' = false :=
      beq_false_of_ne fun hx => hcomment (Option.some.inj hx)
    rw [hsees, hmark, Bool.and_false, if_neg Bool.false_ne_true]
    rw [Cursor.skipWhile_none hwhite, Cursor.skipComment, hstarts, if_neg Bool.false_ne_true, hsees,
      isBreak_of_not_isGap hgap, if_neg Bool.false_ne_true]

theorem closeBlocks_flow (column : Nat) :
    (flow c tokens keyAllowed keys settled).closeBlocks column =
      flow c tokens keyAllowed keys settled := by
  rw [closeBlocks]
  split <;> rfl

theorem toNextToken?_flow (h : NoneRequired keys) (hstart : StartsToken c.rest) :
    (flow c tokens keyAllowed keys settled).toNextToken? =
      some (flow c tokens keyAllowed (possible c keys) settled) := by
  have hskip : skipGaps (flow c tokens keyAllowed keys settled).inFlow
      ((flow c tokens keyAllowed keys settled).cursor.rest.length + 1)
      (flow c tokens keyAllowed keys settled).keyAllowed
      (flow c tokens keyAllowed keys settled).cursor = (keyAllowed, c) := skipGaps_token hstart
  rw [toNextToken?, hskip]
  change (do
    let s ← (flow c tokens keyAllowed keys settled).dropStaleKeys?
    some (s.closeBlocks c.column)) = _
  rw [dropStaleKeys?_flow h, Option.bind_eq_bind, Option.bind_some, closeBlocks_flow]

/-- The scan comes to the next token where it is. -/
theorem next_flow (h : NoneRequired keys) (hstart : StartsToken c.rest) : ∃ settled',
    (flow c tokens keyAllowed keys settled).settle?.bind toNextToken? =
      some (flow c tokens keyAllowed (possible c keys) settled') := by
  obtain ⟨settled', hsettle⟩ := @settle?_flow c tokens keyAllowed keys settled h
  refine ⟨settled', ?_⟩
  rw [hsettle, Option.bind_some, toNextToken?_flow (h.possible c) hstart, possible_possible]

/-! ## Tokens -/

theorem push_flow : (flow c tokens keyAllowed keys settled).push t =
    flow c (tokens ++ [t]) keyAllowed keys settled := by
  rw [push, flow]
  dsimp only
  rw [List.push_toArray]
  rfl

/-- The place that is noted in front of a token. -/
def notedIn (keyAllowed : Bool) (c : Cursor) (tokens : List Token) (k : Option PendingKey) :
    Option PendingKey := if keyAllowed then some (pending c tokens []) else k

theorem not_required_notedIn (h : ∀ key ∈ k, key.required = false) :
    ∀ key ∈ notedIn keyAllowed c tokens k, key.required = false := by
  intro key hkey
  rw [notedIn] at hkey
  split_ifs at hkey
  · rw [← Option.some.inj hkey]
    rfl
  · exact h key hkey

theorem dropKey?_flow (h : ∀ key ∈ k, key.required = false) :
    (flow c tokens keyAllowed (k :: keys) settled).dropKey? =
      some (flow c tokens keyAllowed (none :: keys) settled) := by
  cases k with
  | none => rfl
  | some key =>
    rw [dropKey?]
    exact if_neg (by rw [h key rfl]; exact Bool.false_ne_true)

theorem noteKey?_flow (h : ∀ key ∈ k, key.required = false) :
    (flow c tokens keyAllowed (k :: keys) settled).noteKey? =
      some (flow c tokens keyAllowed (notedIn keyAllowed c tokens k :: keys) settled) := by
  cases keyAllowed with
  | false => rfl
  | true =>
    have hallowed : (flow c tokens true (k :: keys) settled).keyAllowed = true := rfl
    rw [noteKey?, hallowed, if_pos rfl, dropKey?_flow h, Option.bind_eq_bind, Option.bind_some]
    simp [flow, pending, notedIn, indent?]

theorem flowStart?_flow (h : ∀ key ∈ k, key.required = false) :
    (flow c tokens keyAllowed (k :: keys) settled).flowStart? t =
      some (flow (c.skip 1) (tokens ++ [t]) true (none :: notedIn keyAllowed c tokens k :: keys)
        settled) := by
  rw [flowStart?, noteKey?_flow h, Option.bind_eq_bind, Option.bind_some]
  exact congrArg some push_flow

theorem flowEnd?_flow (h : ∀ key ∈ k, key.required = false) :
    (flow c tokens keyAllowed (k :: k' :: keys) settled).flowEnd? t =
      some (flow (c.skip 1) (tokens ++ [t]) false (k' :: keys) settled) := by
  have hflow : (flow c tokens keyAllowed (none :: k' :: keys) settled).inFlow = true :=
    decide_eq_true (by simp [flow])
  rw [flowEnd?, dropKey?_flow h, Option.bind_eq_bind, Option.bind_some, hflow, if_pos rfl]
  exact congrArg some push_flow

theorem flowEntry?_flow (h : ∀ key ∈ k, key.required = false) :
    flowEntry? (flow c tokens keyAllowed (k :: keys) settled) =
      some (flow (c.skip 1) (tokens ++ [.flowEntry]) true (none :: keys) settled) := by
  rw [ flowEntry?, dropKey?_flow h, Option.bind_eq_bind, Option.bind_some]
  exact congrArg some push_flow

theorem keyToken?_flow {read : Cursor → Option (Token × Cursor)} {behind : Cursor}
    (h : ∀ key ∈ k, key.required = false) (hread : read c = some (t, behind)) :
    (flow c tokens keyAllowed (k :: keys) settled).keyToken? read =
      some (flow behind (tokens ++ [t]) false (notedIn keyAllowed c tokens k :: keys) settled) := by
  have hread' : read (flow c tokens keyAllowed (notedIn keyAllowed c tokens k :: keys) settled).cursor
      = some (t, behind) := hread
  rw [keyToken?, noteKey?_flow h, Option.bind_eq_bind, Option.bind_some, hread',
    Option.bind_eq_bind, Option.bind_some]
  exact congrArg some push_flow

theorem plainScalar?_flow {p : PlainScalar} (h : ∀ key ∈ k, key.required = false)
    (hread : c.plainScalar? (flow c tokens keyAllowed (k :: keys) settled).inFlow 0 = some p) :
    (flow c tokens keyAllowed (k :: keys) settled).plainScalar? =
      some (flow p.behind (tokens ++ [.scalar p.text .plain]) p.broken
        (notedIn keyAllowed c tokens k :: keys) settled) := by
  rw [plainScalar?, noteKey?_flow h, Option.bind_eq_bind, Option.bind_some]
  change (do
    let p ← c.plainScalar? (flow c tokens keyAllowed (k :: keys) settled).inFlow 0
    some ((((flow c tokens keyAllowed (notedIn keyAllowed c tokens k :: keys) settled).allowKey
      p.broken).moveTo p.behind).push (.scalar p.text .plain))) = _
  rw [hread, Option.bind_eq_bind, Option.bind_some]
  exact congrArg some push_flow

/-- The value behind a key, which gets its mark now. -/
theorem value?_flow {key : PendingKey} (hposition : key.position = tokens.length) :
    (flow c (tokens ++ [t]) keyAllowed (some key :: k :: keys) settled).value? =
      some (flow (c.skip 1) (tokens ++ [.key, t, .value]) false (none :: k :: keys) settled) := by
  have hinsert : (flow c (tokens ++ [t]) keyAllowed (some key :: k :: keys) settled).insert
      tokens.length .key = flow c (tokens ++ [.key, t]) keyAllowed (some key :: k :: keys)
        settled := by
    rw [insert, flow]
    dsimp only
    rw [List.insertIdxIfInBounds_toArray, insertIdx_length]
    rfl
  have hblock : (flow c (tokens ++ [.key, t]) keyAllowed (none :: k :: keys) settled).openBlock
      key.column tokens.length .blockMapStart =
        flow c (tokens ++ [.key, t]) keyAllowed (none :: k :: keys) settled := by
    rw [openBlock, if_pos]
    rw [inFlow, Bool.or_eq_true]
    exact Or.inl (decide_eq_true (by simp [flow]))
  rw [value?]
  change some ((((({ (flow c (tokens ++ [t]) keyAllowed (some key :: k :: keys) settled).insert
    key.position .key with keys := none :: k :: keys } : Scan).openBlock key.column key.position
      .blockMapStart).allowKey false).mark 1 .value)) = _
  rw [hposition, hinsert]
  change some ((((flow c (tokens ++ [.key, t]) keyAllowed (none :: k :: keys) settled).openBlock
    key.column tokens.length .blockMapStart).allowKey false).mark 1 .value) = _
  rw [hblock]
  refine congrArg some (push_flow.trans ?_)
  rw [List.append_assoc]
  rfl

end Scan

/-! ## Words -/

/-- A digit or a small letter. -/
def isWordLetter (c : Char) : Bool := isDigit c || (97 ≤ c.toNat && c.toNat ≤ 122)

/-- A number, or a word in small letters. -/
structure IsWord (w : List Char) : Prop where
  mem : ∀ c ∈ w, isWordLetter c = true ∨ c ∈ ['.', '+', '-']
  starts : ∃ c s, isWordLetter c = true ∧ (w = c :: s ∨ w = '-' :: c :: s)

theorem ne_of_isWordLetter {c x : Char} (h : isWordLetter c = true) (hx : isWordLetter x = false) :
    c ≠ x := by
  rintro rfl
  rw [hx] at h
  cases h

theorem isWordLetter_spec {c : Char} (h : isWordLetter c = true) :
    isGap c = false ∧ isIndicator c = false ∧ isByteOrderMark c = false := by
  have hne (x : Char) (hx : isWordLetter x = false) : c ≠ x := ne_of_isWordLetter h hx
  have hindicator : isIndicator c = false := by
    have hall : ∀ x, isIndicator x = true → isWordLetter x = false := by
      simp only [isIndicator, List.contains_iff_mem]
      exact List.all_iff_forall_prop.1 (by decide)
    rw [← Bool.not_eq_true]
    exact fun hx => hne c (hall c hx) rfl
  simp only [isWordLetter, isDigit, Bool.or_eq_true, Bool.and_eq_true, decide_eq_true_eq] at h
  refine ⟨?_, hindicator, ?_⟩
  · simp only [isGap, isWhite, isBreak, hne ' ' rfl, hne '\t' rfl, hne '\n' rfl, hne '\r' rfl,
      decide_false, Bool.false_or, Bool.or_eq_false_iff, decide_eq_false_iff_not]
    omega
  · simp only [isByteOrderMark, decide_eq_false_iff_not]
    omega

theorem isWord_decimal (n : Nat) : IsWord (decimal n) := by
  have hletter : ∀ c ∈ decimal n, isWordLetter c = true := fun c hc => by
    rw [isWordLetter, isDigit_of_mem_decimal hc, Bool.true_or]
  refine ⟨fun c hc => Or.inl (hletter c hc), ?_⟩
  obtain ⟨c, s, hdecimal⟩ := List.exists_cons_of_ne_nil (decimal_ne_nil n)
  exact ⟨c, s, hletter c (hdecimal ▸ List.mem_cons_self), Or.inl hdecimal⟩

theorem isWord_minus {c : Char} {s : List Char} (h : IsWord (c :: s)) (hc : isWordLetter c = true) :
    IsWord ('-' :: c :: s) := by
  refine ⟨fun d hd => ?_, c, s, hc, Or.inr rfl⟩
  obtain rfl | hd := List.mem_cons.1 hd
  · exact Or.inr (by decide)
  · exact h.mem d hd

theorem isWord_number {n : Json.Number} (h : n.WellFormed) : IsWord n.text := by
  cases h with
  | @whole z _ =>
    rw [Json.Number.text]
    have hword := isWord_decimal z.natAbs
    split_ifs
    · obtain ⟨c, s, hdecimal⟩ := List.exists_cons_of_ne_nil (decimal_ne_nil z.natAbs)
      have hc : isWordLetter c = true := by
        rw [isWordLetter, isDigit_of_mem_decimal (hdecimal ▸ List.mem_cons_self), Bool.true_or]
      rw [hdecimal] at hword ⊢
      exact isWord_minus hword hc
    · exact hword
  | @real x hx =>
    obtain ⟨before, after, power, hspells, htext⟩ :=
      Number.Binary64.scientificText_spells hx Json.Number.range
    obtain ⟨c, s, hspelled, hdigit⟩ := hspells.head?
    have hc : isWordLetter c = true := by rw [isWordLetter, hdigit, Bool.true_or]
    have hword : IsWord (c :: s) := by
      refine ⟨fun d hd => ?_, c, s, hc, Or.inl rfl⟩
      rw [← hspelled] at hd
      obtain hdigit | hmark := hspells.mem hd
      · exact Or.inl (by rw [isWordLetter, hdigit, Bool.true_or])
      · simp only [List.mem_cons, List.not_mem_nil, or_false] at hmark
        obtain rfl | rfl | rfl | rfl := hmark
        · exact Or.inr (by decide)
        · exact Or.inl rfl
        · exact Or.inr (by decide)
        · exact Or.inr (by decide)
    rw [Json.Number.text, htext, hspelled, Number.Binary64.signText]
    split_ifs
    · exact isWord_minus hword hc
    · exact hword

/-- What ends a word: the end of the text, or between brackets a mark. -/
def EndsWord (inFlow : Bool) (rest : List Char) : Prop :=
  rest = [] ∨ inFlow = true ∧ ∃ c s, rest = c :: s ∧ isFlowMark c = true

theorem isFlowMark_spec {c : Char} (h : isFlowMark c = true) :
    isGap c = false ∧ c ≠ '#' ∧ isByteOrderMark c = false ∧ c ≠ ':' := by
  simp only [isFlowMark, Bool.or_eq_true, decide_eq_true_eq] at h
  obtain (((rfl | rfl) | rfl) | rfl) | rfl := h <;> decide

theorem IsWord.letter_spec {w : List Char} (h : IsWord w) {c : Char} (hc : c ∈ w) :
    isGap c = false ∧ c ≠ ':' ∧ isFlowMark c = false := by
  obtain hletter | hmark := h.mem c hc
  · have hne (x : Char) (hx : isWordLetter x = false) : c ≠ x := ne_of_isWordLetter hletter hx
    refine ⟨(isWordLetter_spec hletter).1, hne ':' rfl, ?_⟩
    simp only [isFlowMark, hne ',' rfl, hne '[' rfl, hne ']' rfl, hne '{' rfl, hne '}' rfl,
      decide_false, Bool.or_self]
  · simp only [List.mem_cons, List.not_mem_nil, or_false] at hmark
    obtain rfl | rfl | rfl := hmark <;> decide

theorem plainWord?_word {w rest : List Char} {inFlow : Bool}
    (h : ∀ c ∈ w, isGap c = false ∧ c ≠ ':' ∧ isFlowMark c = false) (hrest : EndsWord inFlow rest) :
    plainWord? inFlow (w ++ rest) = some w := by
  induction w with
  | nil =>
    obtain rfl | ⟨rfl, c, s, rfl, hmark⟩ := hrest
    · rfl
    · obtain ⟨hgap, -, -, hcolon⟩ := isFlowMark_spec hmark
      rw [List.nil_append, plainWord?, hgap, if_neg Bool.false_ne_true, decide_eq_false hcolon,
        Bool.and_false, Bool.false_and, if_neg Bool.false_ne_true, Bool.false_and, hmark]
      rfl
  | cons c w ih =>
    obtain ⟨hgap, hcolon, hmark⟩ := h c List.mem_cons_self
    rw [List.cons_append, plainWord?, hgap, if_neg Bool.false_ne_true, decide_eq_false hcolon,
      Bool.and_false, Bool.false_and, if_neg Bool.false_ne_true, Bool.false_and, hmark,
      Bool.and_false, Bool.or_self, if_neg Bool.false_ne_true,
      ih fun d hd => h d (List.mem_cons_of_mem c hd)]
    rfl

section

variable {w rest : List Char} {inFlow : Bool} (h : IsWord w)

include h

theorem IsWord.startsToken : StartsToken (w ++ rest) := by
  obtain ⟨c, s, hc, rfl | rfl⟩ := h.starts
  · obtain ⟨hgap, -, hmark⟩ := isWordLetter_spec hc
    exact startsToken_cons ⟨hgap, ne_of_isWordLetter hc rfl, hmark⟩ _
  · exact startsToken_cons (by decide) _

theorem IsWord.atMarkLine {x : Char} (hx : isWordLetter x = false) (index line column : Nat) :
    (⟨w ++ rest, index, line, column⟩ : Cursor).atMarkLine x = false := by
  obtain ⟨c, s, hc, rfl | rfl⟩ := h.starts
  · exact Cursor.atMarkLine_of_head (ne_of_isWordLetter hc hx)
  · exact Cursor.atMarkLine_of_second (ne_of_isWordLetter hc hx)

/-- A word is one plain scalar. -/
theorem IsWord.plainScalar? (hrest : EndsWord inFlow rest) (index line column : Nat) :
    (⟨w ++ rest, index, line, column⟩ : Cursor).plainScalar? inFlow 0 =
      some ⟨w, ⟨rest, index + w.length, line, column + w.length⟩, false⟩ := by
  have hmark : (⟨w ++ rest, index, line, column⟩ : Cursor).atDocumentMark = false :=
    Bool.or_eq_false_iff.2 ⟨h.atMarkLine rfl index line column, h.atMarkLine rfl index line column⟩
  have hcomment : (⟨w ++ rest, index, line, column⟩ : Cursor).startsWith '#' = false := by
    refine beq_false_of_ne fun hhead => ?_
    exact (@IsWord.startsToken w rest h '#' hhead).2.1 rfl
  have hne : w ≠ [] := by
    obtain ⟨c, s, -, rfl | rfl⟩ := h.starts
    · exact List.cons_ne_nil c s
    · exact List.cons_ne_nil _ _
  have hgap : (⟨rest, index + w.length, line, column + w.length⟩ : Cursor).sees isGap = false := by
    obtain rfl | ⟨-, c, s, rfl, hflow⟩ := hrest
    · rfl
    · exact (isFlowMark_spec hflow).1
  rw [Cursor.plainScalar?, plainFrom?, hmark, hcomment, Bool.or_self, if_neg Bool.false_ne_true,
    plainWord?_word (fun c hc => h.letter_spec hc) hrest, Option.bind_eq_bind, Option.bind_some,
    List.isEmpty_eq_false_iff.2 hne, if_neg Bool.false_ne_true, Cursor.skip_append]
  dsimp only
  rw [hgap, if_neg Bool.false_ne_true]
  rfl

end

/-! ## Which token it is -/

namespace Scan

variable {s : Scan} {rest : List Char}

theorem tokenAt?_openList (h : s.cursor.rest.head? = some '[') :
    s.tokenAt? '[' = s.flowStart? .flowListStart := by
  unfold tokenAt?
  simp [atMarkLine_eq_false h (show '[' ≠ '-' by decide),
    atMarkLine_eq_false h (show '[' ≠ '.' by decide)]

theorem tokenAt?_closeList (h : s.cursor.rest.head? = some ']') :
    s.tokenAt? ']' = s.flowEnd? .flowListEnd := by
  unfold tokenAt?
  simp [atMarkLine_eq_false h (show ']' ≠ '-' by decide),
    atMarkLine_eq_false h (show ']' ≠ '.' by decide)]

theorem tokenAt?_openMap (h : s.cursor.rest.head? = some '{') :
    s.tokenAt? '{' = s.flowStart? .flowMapStart := by
  unfold tokenAt?
  simp [atMarkLine_eq_false h (show '{' ≠ '-' by decide),
    atMarkLine_eq_false h (show '{' ≠ '.' by decide)]

theorem tokenAt?_closeMap (h : s.cursor.rest.head? = some '}') :
    s.tokenAt? '}' = s.flowEnd? .flowMapEnd := by
  unfold tokenAt?
  simp [atMarkLine_eq_false h (show '}' ≠ '-' by decide),
    atMarkLine_eq_false h (show '}' ≠ '.' by decide)]

theorem tokenAt?_comma (h : s.cursor.rest.head? = some ',') : s.tokenAt? ',' = s.flowEntry? := by
  unfold tokenAt?
  simp [atMarkLine_eq_false h (show ',' ≠ '-' by decide),
    atMarkLine_eq_false h (show ',' ≠ '.' by decide)]

theorem tokenAt?_colon (h : s.cursor.rest.head? = some ':') (hflow : s.inFlow = true) :
    s.tokenAt? ':' = s.value? := by
  unfold tokenAt?
  simp [atMarkLine_eq_false h (show ':' ≠ '-' by decide),
    atMarkLine_eq_false h (show ':' ≠ '.' by decide), hflow]

theorem tokenAt?_quotes (h : s.cursor.rest.head? = some '"') :
    s.tokenAt? '"' =
      s.keyToken? fun c => (c.quotedScalar? .double).map fun q => (.scalar q.1 .quoted, q.2) := by
  unfold tokenAt?
  simp [atMarkLine_eq_false h (show '"' ≠ '-' by decide),
    atMarkLine_eq_false h (show '"' ≠ '.' by decide)]

theorem tokenAt?_word {w : List Char} (h : IsWord w) {x : Char} (hx : w.head? = some x)
    (hs : s.cursor.rest = w ++ rest) : s.tokenAt? x = s.plainScalar? := by
  obtain ⟨index, line, column, hcursor⟩ :
      ∃ index line column, s.cursor = ⟨w ++ rest, index, line, column⟩ :=
    ⟨s.cursor.index, s.cursor.line, s.cursor.column, by rw [← hs]⟩
  have hdash := @IsWord.atMarkLine w rest h '-' rfl index line column
  have hdot := @IsWord.atMarkLine w rest h '.' rfl index line column
  obtain ⟨c, t, hc, hw⟩ := h.starts
  obtain ⟨hgap, hindicator, -⟩ := isWordLetter_spec hc
  have hne (y : Char) (hy : isWordLetter y = false) : c ≠ y := ne_of_isWordLetter hc hy
  rw [← hcursor] at hdash hdot
  obtain rfl | rfl := hw
  · obtain rfl := Option.some.inj hx
    have hstarts : s.startsPlain c = true := by
      rw [startsPlain, hgap, hindicator]
      rfl
    unfold tokenAt?
    simp [hdash, hdot, hstarts, hne '%' rfl, hne '[' rfl, hne ']' rfl, hne '{' rfl, hne '}' rfl,
      hne ',' rfl, hne '-' rfl, hne '?' rfl, hne ':' rfl, hne '*' rfl, hne '&' rfl, hne '!' rfl,
      hne '|' rfl, hne '>' rfl, hne '\'' rfl, hne '"' rfl]
  · obtain rfl := Option.some.inj hx
    have hnext : s.cursor.gapAt 1 = false := by
      rw [hcursor]
      exact hgap
    have hstarts : s.startsPlain '-' = true := by
      have hwhite : (s.cursor.skip 1).sees isWhite = false := by
        rw [hcursor]
        exact isWhite_of_not_isGap hgap
      rw [startsPlain, hwhite]
      rfl
    unfold tokenAt?
    simp [hdash, hdot, hstarts, hnext]

end Scan

end LoginGate.Yaml
