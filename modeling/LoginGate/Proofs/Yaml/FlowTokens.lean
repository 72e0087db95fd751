import LoginGate.Proofs.Yaml.Flow
import LoginGate.Proofs.Yaml.FoldedTexts
import LoginGate.Proofs.Yaml.WrittenTokens

/-!
# The tokens of compact JSON

    tokens (compactChars v) = ⟨.streamStart :: flowTokens v ++ [.streamEnd], true⟩

for every value that is well formed and `Legible`: its texts and keys are read as JSON quotes them
(`tokens_compact`).  What the tokens are where they are not is told for objects with one member
(`tokens_foldedMember`, `tokens_stuckMember`, `tokens_stuckKey`, `tokens_keyless`).
-/

namespace LoginGate.Yaml

open LoginGate.Text LoginGate.Json

mutual

/-- The tokens of a value in flow style. -/
def flowTokens : Json → List Token
  | .list items => .flowListStart :: flowItemTokens items ++ [.flowListEnd]
  | .object members => .flowMapStart :: flowMemberTokens members ++ [.flowMapEnd]
  | .null => [.scalar "null".toList .plain]
  | .bool true => [.scalar "true".toList .plain]
  | .bool false => [.scalar "false".toList .plain]
  | .number n => [.scalar n.text .plain]
  | .text s => [.scalar s.toList .quoted]

def flowItemTokens : List Json → List Token
  | [] => []
  | [v] => flowTokens v
  | v :: rest => flowTokens v ++ .flowEntry :: flowItemTokens rest

def flowMemberTokens : List (String × Json) → List Token
  | [] => []
  | [(key, v)] => [.key, .scalar key.toList .quoted, .value] ++ flowTokens v
  | (key, v) :: rest =>
    [.key, .scalar key.toList .quoted, .value] ++ flowTokens v ++ .flowEntry :: flowMemberTokens rest

end

/-- A value whose texts and keys are read as JSON quotes them. -/
inductive Legible : Json → Prop
  | null : Legible .null
  | bool (b : Bool) : Legible (.bool b)
  | number (n : Json.Number) : Legible (.number n)
  | text {s : String} : Verbatim s.toList → Legible (.text s)
  | list {items : List Json} : (∀ v ∈ items, Legible v) → Legible (.list items)
  | object {members : List (String × Json)} : (∀ m ∈ members, VerbatimKey m.1.toList) →
      (∀ m ∈ members, Legible m.2) → Legible (.object members)

/-! ## Characters -/

def AllPermitted (s : List Char) : Prop := ∀ c ∈ s, isPermitted c = true

theorem AllPermitted.append {s t : List Char} (hs : AllPermitted s) (ht : AllPermitted t) :
    AllPermitted (s ++ t) := fun c hc => (List.mem_append.1 hc).elim (hs c) (ht c)

theorem AllPermitted.cons {c : Char} {s : List Char} (hc : isPermitted c = true)
    (hs : AllPermitted s) : AllPermitted (c :: s) := fun d hd =>
  (List.mem_cons.1 hd).elim (fun h => h ▸ hc) (hs d)

theorem IsWord.allPermitted {w : List Char} (h : IsWord w) : AllPermitted w := by
  intro c hc
  obtain hletter | hmark := h.mem c hc
  · simp only [isWordLetter, isDigit, Bool.or_eq_true, Bool.and_eq_true, decide_eq_true_eq]
      at hletter
    simp only [isPermitted, Bool.or_eq_true, Bool.and_eq_true, decide_eq_true_eq]
    omega
  · simp only [List.mem_cons, List.not_mem_nil, or_false] at hmark
    obtain rfl | rfl | rfl := hmark <;> decide

theorem isWord_of_all {c : Char} {s : List Char} (h : (c :: s).all isWordLetter = true) :
    IsWord (c :: s) := by
  have hletter := List.all_eq_true.1 h
  exact ⟨fun d hd => Or.inl (hletter d hd), c, s, hletter c List.mem_cons_self, Or.inl rfl⟩

theorem isWord_null : IsWord "null".toList := isWord_of_all (by decide)

theorem isWord_true : IsWord "true".toList := isWord_of_all (by decide)

theorem isWord_false : IsWord "false".toList := isWord_of_all (by decide)

theorem allPermitted_items {items : List Json}
    (h : ∀ v ∈ items, AllPermitted (compactChars v)) : AllPermitted (compactItems items) := by
  induction items with
  | nil => exact fun c hc => absurd hc List.not_mem_nil
  | cons v items ih =>
    have hv := h v List.mem_cons_self
    have hitems := ih fun w hw => h w (List.mem_cons_of_mem v hw)
    cases items with
    | nil => exact hv
    | cons w items => exact hv.append (hitems.cons rfl)

theorem allPermitted_members {members : List (String × Json)}
    (hkeys : ∀ m ∈ members, VerbatimKey m.1.toList)
    (h : ∀ m ∈ members, AllPermitted (compactChars m.2)) :
    AllPermitted (compactMembers members) := by
  induction members with
  | nil => exact fun c hc => absurd hc List.not_mem_nil
  | cons m members ih =>
    obtain ⟨key, v⟩ := m
    have hkey : AllPermitted (quoted key.toList) :=
      isPermitted_quoted_iff.2 (hkeys _ List.mem_cons_self).permitted
    have hv := h _ List.mem_cons_self
    have hmembers := ih (fun m hm => hkeys m (List.mem_cons_of_mem _ hm))
      fun m hm => h m (List.mem_cons_of_mem _ hm)
    cases members with
    | nil => exact hkey.append (hv.cons rfl)
    | cons m members => exact (hkey.append (hv.cons rfl)).append (hmembers.cons rfl)

theorem allPermitted_compact {depth : Nat} {v : Json} (hv : v.WellFormed depth) (hread : Legible v) :
    AllPermitted (compactChars v) := by
  have hbrackets {a b : Char} {s : List Char} (ha : isPermitted a = true) (hb : isPermitted b = true)
      (hs : AllPermitted s) : AllPermitted (a :: s ++ [b]) :=
    (hs.cons ha).append (.cons hb fun c hc => absurd hc List.not_mem_nil)
  induction hv with
  | null => exact isWord_null.allPermitted
  | bool b =>
    cases b
    · exact isWord_false.allPermitted
    · exact isWord_true.allPermitted
  | number h => exact (isWord_number h).allPermitted
  | text s =>
    cases hread with
    | text h => exact isPermitted_quoted_iff.2 h.permitted
  | list _ ih =>
    cases hread with
    | list h => exact hbrackets rfl rfl (allPermitted_items fun v hv => ih v hv (h v hv))
  | object _ _ ih =>
    cases hread with
    | object hkeys h =>
      exact hbrackets rfl rfl (allPermitted_members hkeys fun m hm => ih m hm (h m hm))

/-! ## Spots -/

namespace Scan

/-- Where a scan stands in flow style. -/
structure Spot where
  rest : List Char
  tokens : List Token
  keyAllowed : Bool
  depth : Nat

def Stands (s : Scan) (f : Spot) : Prop :=
  ∃ index line column keys settled,
    s = flow ⟨f.rest, index, line, column⟩ f.tokens f.keyAllowed keys settled ∧
      keys.length = f.depth + 1 ∧ NoneRequired keys

/-- A scan that stands at one spot gets to one that stands at the other. -/
def Passes (f g : Spot) : Prop :=
  ∀ s, Stands s f → ∃ n s', n + g.rest.length ≤ f.rest.length ∧ Stands s' g ∧
    ∀ fuel, run (fuel + n) s = run fuel s'

theorem Passes.trans {f g h : Spot} (hfg : Passes f g) (hgh : Passes g h) : Passes f h := by
  intro s hs
  obtain ⟨n, s', hn, hs', hrun⟩ := hfg s hs
  obtain ⟨m, s'', hm, hs'', hrun'⟩ := hgh s' hs'
  refine ⟨m + n, s'', by omega, hs'', fun fuel => ?_⟩
  rw [← Nat.add_assoc, hrun, hrun']

theorem run_flow {c : Cursor} {tokens : List Token} {keyAllowed : Bool}
    {keys : List (Option PendingKey)} {settled : Nat} (hkeys : NoneRequired keys)
    (hstart : StartsToken c.rest) : ∃ settled', ∀ next,
      (flow c tokens keyAllowed (possible c keys) settled').tokenHere? = some next →
        ∀ fuel, run (fuel + 1) (flow c tokens keyAllowed keys settled) = run fuel next := by
  obtain ⟨settled', hnext⟩ := @next_flow c tokens keyAllowed keys settled hkeys hstart
  refine ⟨settled', fun next h => run_step rfl ?_⟩
  obtain ⟨s', hs', hnext⟩ := Option.bind_eq_some_iff.1 hnext
  rw [hs', Option.bind_some, step?_eq, hnext, Option.bind_some, h]

theorem passes_of_token {f g : Spot} (hstart : StartsToken f.rest)
    (hlength : g.rest.length < f.rest.length)
    (h : ∀ index line column k keys settled, keys.length = f.depth →
      (∀ key ∈ k, key.required = false) → NoneRequired keys → ∃ next,
        (flow ⟨f.rest, index, line, column⟩ f.tokens f.keyAllowed (k :: keys) settled).tokenHere? =
          some next ∧ Stands next g) : Passes f g := by
  rintro s ⟨index, line, column, keys, settled, rfl, hcount, hkeys⟩
  obtain ⟨k, keys, rfl⟩ := List.exists_cons_of_length_eq_add_one hcount
  let c : Cursor := ⟨f.rest, index, line, column⟩
  obtain ⟨settled', hrun⟩ := @run_flow c f.tokens f.keyAllowed (k :: keys) settled hkeys hstart
  have hpossible := hkeys.possible c
  obtain ⟨next, hnext, hstands⟩ := h index line column (k.filter (stillPossible c)) (possible c keys)
    settled' (by simpa [possible] using hcount) (hpossible _ List.mem_cons_self) hpossible.tail
  exact ⟨1, next, by omega, hstands, fun fuel => hrun next hnext fuel⟩

variable {rest : List Char} {tokens : List Token} {keyAllowed : Bool} {depth : Nat}

/-! ## Brackets, commas and scalars -/

theorem passes_open {a : Char} {t : Token} (hstart : isGap a = false ∧ a ≠ '#' ∧
    isByteOrderMark a = false) (htoken : ∀ s : Scan, s.cursor.rest.head? = some a →
      s.tokenAt? a = s.flowStart? t) :
    Passes ⟨a :: rest, tokens, keyAllowed, depth⟩ ⟨rest, tokens ++ [t], true, depth + 1⟩ := by
  refine passes_of_token (startsToken_cons hstart rest) (Nat.lt_succ_self _) ?_
  intro index line column k keys settled hcount hk hkeys
  refine ⟨_, (htoken _ rfl).trans (flowStart?_flow hk), index + 1, line, column + 1, _, settled, rfl,
    ?_, ?_⟩
  · rw [List.length_cons, List.length_cons, hcount]
  · exact .cons (fun key hkey => by cases hkey) (.cons (not_required_notedIn hk) hkeys)

theorem passes_close {b : Char} {t : Token} (hstart : isGap b = false ∧ b ≠ '#' ∧
    isByteOrderMark b = false) (htoken : ∀ s : Scan, s.cursor.rest.head? = some b →
      s.tokenAt? b = s.flowEnd? t) :
    Passes ⟨b :: rest, tokens, keyAllowed, depth + 1⟩ ⟨rest, tokens ++ [t], false, depth⟩ := by
  refine passes_of_token (startsToken_cons hstart rest) (Nat.lt_succ_self _) ?_
  intro index line column k keys settled hcount hk hkeys
  obtain ⟨k', keys, rfl⟩ := List.exists_cons_of_length_eq_add_one hcount
  exact ⟨_, (htoken _ rfl).trans (flowEnd?_flow hk), index + 1, line, column + 1, _, settled, rfl,
    hcount, hkeys⟩

theorem passes_openMap : Passes ⟨'{' :: rest, tokens, keyAllowed, depth⟩
    ⟨rest, tokens ++ [.flowMapStart], true, depth + 1⟩ :=
  passes_open (by decide) fun _ hs => tokenAt?_openMap hs

theorem passes_closeMap : Passes ⟨'}' :: rest, tokens, keyAllowed, depth + 1⟩
    ⟨rest, tokens ++ [.flowMapEnd], false, depth⟩ :=
  passes_close (by decide) fun _ hs => tokenAt?_closeMap hs

theorem passes_comma :
    Passes ⟨',' :: rest, tokens, keyAllowed, depth⟩ ⟨rest, tokens ++ [.flowEntry], true, depth⟩ := by
  refine passes_of_token (startsToken_cons (by decide) rest) (Nat.lt_succ_self _) ?_
  intro index line column k keys settled hcount hk hkeys
  refine ⟨_, (tokenAt?_comma rfl).trans (flowEntry?_flow hk), index + 1, line, column + 1, _, settled,
    rfl, ?_, .cons (fun key hkey => by cases hkey) hkeys⟩
  rw [List.length_cons, hcount]

theorem passes_word {w : List Char} (h : IsWord w) (hrest : EndsWord (decide (0 < depth)) rest) :
    Passes ⟨w ++ rest, tokens, keyAllowed, depth⟩
      ⟨rest, tokens ++ [.scalar w .plain], false, depth⟩ := by
  have hne : ∃ x t, w = x :: t := by
    obtain ⟨c, s, -, rfl | rfl⟩ := h.starts <;> exact ⟨_, _, rfl⟩
  obtain ⟨x, t, hw⟩ := hne
  refine passes_of_token h.startsToken ?_ ?_
  · rw [hw]
    simp only [List.length_append, List.length_cons]
    omega
  · intro index line column k keys settled hcount hk hkeys
    let c : Cursor := ⟨w ++ rest, index, line, column⟩
    have hflow : (flow c tokens keyAllowed (k :: keys) settled).inFlow = decide (0 < depth) := by
      rw [inFlow, flow, List.length_cons, hcount]
      exact decide_eq_decide.2 Nat.succ_lt_succ_iff
    have hread := h.plainScalar? hrest index line column
    rw [← hflow] at hread
    have hhead : (flow c tokens keyAllowed (k :: keys) settled).tokenHere? =
        (flow c tokens keyAllowed (k :: keys) settled).tokenAt? x := by
      have : c.rest = x :: (t ++ rest) := by rw [← List.cons_append, ← hw]
      rw [tokenHere?, flow, Cursor.head?, this, List.head?_cons]
    refine ⟨_, hhead.trans ((tokenAt?_word h (by rw [hw, List.head?_cons]) rfl).trans
      (plainScalar?_flow hk hread)), _, _, _, _, settled, rfl, ?_,
      .cons (not_required_notedIn hk) hkeys⟩
    rw [List.length_cons, hcount]

theorem tokenHere?_quotes {s behind : List Char} {c : Cursor} {keys : List (Option PendingKey)}
    {settled : Nat} (hc : c.rest = quoted s ++ behind) :
    (flow c tokens keyAllowed keys settled).tokenHere? =
      (flow c tokens keyAllowed keys settled).keyToken? fun c =>
        (c.quotedScalar? .double).map fun q => (.scalar q.1 .quoted, q.2) := by
  have hhead : (flow c tokens keyAllowed keys settled).cursor.rest.head? = some '"' := by
    show c.rest.head? = some '"'
    rw [hc]
    rfl
  rw [tokenHere?, Cursor.head?, hhead]
  exact tokenAt?_quotes hhead

theorem tokenHere?_quoted {s t behind : List Char} {c c' : Cursor} {k : Option PendingKey}
    {keys : List (Option PendingKey)} {settled : Nat} (hc : c.rest = quoted s ++ behind)
    (hk : ∀ key ∈ k, key.required = false) (hread : c.quotedScalar? .double = some (t, c')) :
    (flow c tokens keyAllowed (k :: keys) settled).tokenHere? =
      some (flow c' (tokens ++ [.scalar t .quoted]) false (notedIn keyAllowed c tokens k :: keys)
        settled) := by
  rw [tokenHere?_quotes hc]
  refine keyToken?_flow hk ?_
  rw [hread]
  rfl

theorem startsToken_quoted (s rest : List Char) : StartsToken (quoted s ++ rest) :=
  startsToken_cons (by decide) _

theorem length_lt_quoted (s rest : List Char) : rest.length < (quoted s ++ rest).length := by
  simp only [quoted, List.length_append, List.length_cons]
  omega

theorem passes_text {s t : List Char} (h : folded? s = some t) :
    Passes ⟨quoted s ++ rest, tokens, keyAllowed, depth⟩
      ⟨rest, tokens ++ [.scalar t .quoted], false, depth⟩ := by
  refine passes_of_token (startsToken_quoted s rest) (length_lt_quoted s rest) ?_
  intro index line column k keys settled hcount hk hkeys
  obtain ⟨behind, hbehind, -, hread⟩ := quotedScalar?_folded s rest index line column
  rw [h, Option.map_some] at hread
  have hcursor : behind = ⟨rest, behind.index, behind.line, behind.column⟩ := by
    rw [← hbehind.rest_eq]
  refine ⟨_, tokenHere?_quoted rfl hk hread, behind.index, behind.line, behind.column, _, settled,
    by rw [← hcursor], ?_, .cons (not_required_notedIn hk) hkeys⟩
  rw [List.length_cons, hcount]

/-- Behind a text a key may still have begun in front of it, if it fits a key. -/
theorem stillPossible_quoted {s rest : List Char} {index line column : Nat} {behind : Cursor}
    (hbehind : ComesBehind (quoted s) rest ⟨quoted s ++ rest, index, line, column⟩ behind)
    (hline : line + (quoted s).countP isBreak ≤ behind.line) (tokens : List Token) :
    stillPossible behind (pending ⟨quoted s ++ rest, index, line, column⟩ tokens []) = fitsKey s := by
  rw [Bool.eq_iff_iff, fitsKey_iff, stillPossible, Bool.and_eq_true, beq_iff_eq, decide_eq_true_eq]
  by_cases hbreak : ∀ c ∈ quoted s, isBreak c = false
  · rw [hbehind.one_line hbreak]
    have : line = line ∧ index + (quoted s).length ≤ index + 1024 ↔ (quoted s).length ≤ 1024 := by
      omega
    exact this.trans (and_iff_right hbreak).symm
  · refine iff_of_false (fun h => ?_) fun h => hbreak h.1
    have hcount : (quoted s).countP isBreak ≠ 0 := fun hcount => hbreak fun c hc =>
      Bool.eq_false_of_not_eq_true (List.countP_eq_zero.1 hcount c hc)
    have hsame : line = behind.line := h.1
    omega

theorem tokenHere?_colon {c : Cursor} {keys : List (Option PendingKey)} {k k' : Option PendingKey}
    {settled : Nat} (hc : c.rest.head? = some ':') :
    (flow c tokens keyAllowed (k :: k' :: keys) settled).tokenHere? =
      (flow c tokens keyAllowed (k :: k' :: keys) settled).value? := by
  have hflow : (flow c tokens keyAllowed (k :: k' :: keys) settled).inFlow = true :=
    decide_eq_true (by simp [flow])
  rw [tokenHere?, flow, Cursor.head?, hc]
  exact tokenAt?_colon hc hflow

/-- The text of a key and the colon behind it.  The text is noted as a possible key, and at the colon
it still is one if it fits; `told` are the tokens of both. -/
theorem passes_keyText {s t : List Char} (h : folded? s = some t) {told : List Token}
    (hvalue : ∀ c key k keys settled, key.position = tokens.length →
      (flow c (tokens ++ [.scalar t .quoted]) false
        ((if fitsKey s then some key else none) :: k :: keys) settled).value? =
        some (flow (c.skip 1) (tokens ++ told) false (none :: k :: keys) settled)) :
    Passes ⟨quoted s ++ ':' :: rest, tokens, true, depth + 1⟩
      ⟨rest, tokens ++ told, false, depth + 1⟩ := by
  rintro scan ⟨index, line, column, keys, settled, rfl, hcount, hkeys⟩
  obtain ⟨k, keys, rfl⟩ := List.exists_cons_of_length_eq_add_one hcount
  let c : Cursor := ⟨quoted s ++ ':' :: rest, index, line, column⟩
  obtain ⟨c', hbehind, hline, hread⟩ := quotedScalar?_folded s (':' :: rest) index line column
  rw [h, Option.map_some] at hread
  -- the text
  obtain ⟨settled₁, hrun₁⟩ := @run_flow c tokens true (k :: keys) settled hkeys
    (startsToken_quoted s _)
  have hpossible := hkeys.possible c
  have hnext₁ := hrun₁ _ (tokenHere?_quoted rfl (hpossible _ List.mem_cons_self) hread)
  -- the colon
  let key : PendingKey := pending c tokens []
  let keys' := possible c keys
  have hkeys' : NoneRequired (some key :: keys') :=
    .cons (fun key' hkey => by rw [← Option.some.inj hkey]; rfl) hpossible.tail
  obtain ⟨settled₂, hrun₂⟩ := @run_flow c' (tokens ++ [.scalar t .quoted]) false
    (some key :: keys') settled₁ hkeys' (hbehind.rest_eq ▸ startsToken_cons (by decide) rest)
  have hcount' : (possible c' keys').length = depth + 1 := by
    simpa [keys', possible] using hcount
  obtain ⟨k', keys'', hkeys''⟩ := List.exists_cons_of_length_eq_add_one hcount'
  have hlist : possible c' (some key :: keys') =
      (if fitsKey s then some key else none) :: k' :: keys'' := by
    show (some key).filter (stillPossible c') :: possible c' keys' = _
    rw [Option.filter_some, stillPossible_quoted hbehind hline, hkeys'']
  rw [hlist] at hrun₂
  have hcolon : c'.rest.head? = some ':' := by rw [hbehind.rest_eq]; rfl
  have hnext₂ := hrun₂ _ ((tokenHere?_colon hcolon).trans (hvalue c' key k' keys'' settled₂ rfl))
  have hrest : (c'.skip 1).rest = rest := by rw [Cursor.skip, hbehind.rest_eq]; rfl
  refine ⟨2, _, ?_, ⟨(c'.skip 1).index, (c'.skip 1).line, (c'.skip 1).column, _, settled₂,
    by rw [← hrest], ?_, ?_⟩, fun fuel => (hnext₁ (fuel + 1)).trans (hnext₂ fuel)⟩
  · have := length_lt_quoted s (':' :: rest)
    simp only [List.length_cons] at this ⊢
    omega
  · rw [List.length_cons, ← hkeys'', hcount']
  · rw [← hkeys'']
    exact .cons (fun key hkey => by cases hkey) (hpossible.tail.possible c')

theorem passes_key {s : List Char} (h : VerbatimKey s) :
    Passes ⟨quoted s ++ ':' :: rest, tokens, true, depth + 1⟩
      ⟨rest, tokens ++ [.key, .scalar s .quoted, .value], false, depth + 1⟩ := by
  refine passes_keyText (verbatim_iff.1 h.verbatim).2 fun c key k keys settled hposition => ?_
  rw [if_pos (verbatimKey_iff.1 h).2]
  exact value?_flow hposition

/-- A value is passed over, up to what ends a word. -/
def PassesValue (v : Json) : Prop :=
  ∀ (rest : List Char) (tokens : List Token) (keyAllowed : Bool) (depth : Nat),
    EndsWord (decide (0 < depth)) rest →
      Passes ⟨compactChars v ++ rest, tokens, keyAllowed, depth⟩
        ⟨rest, tokens ++ flowTokens v, false, depth⟩

theorem endsWord_mark {c : Char} (h : isFlowMark c = true) (rest : List Char) (depth : Nat) :
    EndsWord (decide (0 < depth + 1)) (c :: rest) := Or.inr ⟨rfl, c, rest, rfl, h⟩

theorem passes_items {v : Json} {items : List Json} (h : ∀ w ∈ v :: items, PassesValue w) :
    Passes ⟨compactItems (v :: items) ++ ']' :: rest, tokens, true, depth + 1⟩
      ⟨']' :: rest, tokens ++ flowItemTokens (v :: items), false, depth + 1⟩ := by
  have hv := h v List.mem_cons_self
  induction items generalizing v tokens with
  | nil => exact hv _ tokens true (depth + 1) (endsWord_mark rfl _ _)
  | cons w items ih =>
    have hfirst := hv (',' :: compactItems (w :: items) ++ ']' :: rest) tokens true (depth + 1)
      (endsWord_mark rfl _ _)
    have hrest := @ih (tokens ++ flowTokens v ++ [.flowEntry]) w
      (fun x hx => h x (List.mem_cons_of_mem v hx)) (h w (by simp))
    have hchars : compactItems (v :: w :: items) ++ ']' :: rest =
        compactChars v ++ (',' :: compactItems (w :: items) ++ ']' :: rest) := by
      simp [compactItems]
    have htokens : tokens ++ flowItemTokens (v :: w :: items) =
        tokens ++ flowTokens v ++ [.flowEntry] ++ flowItemTokens (w :: items) := by
      simp [flowItemTokens]
    rw [hchars, htokens]
    exact (hfirst.trans passes_comma).trans hrest

theorem passesValue_list {items : List Json} (h : ∀ v ∈ items, PassesValue v) :
    PassesValue (.list items) := by
  intro rest tokens keyAllowed depth _
  have hchars : compactChars (.list items) ++ rest = '[' :: (compactItems items ++ ']' :: rest) := by
    simp [compactChars]
  have htokens : tokens ++ flowTokens (.list items) =
      tokens ++ [.flowListStart] ++ flowItemTokens items ++ [.flowListEnd] := by
    simp [flowTokens]
  have hopen := @passes_open (compactItems items ++ ']' :: rest) tokens keyAllowed depth '['
    .flowListStart (by decide) fun _ hs => tokenAt?_openList hs
  have hclose (tokens : List Token) (keyAllowed : Bool) := @passes_close rest tokens keyAllowed depth
    ']' .flowListEnd (by decide) fun _ hs => tokenAt?_closeList hs
  rw [hchars, htokens]
  cases items with
  | nil =>
    have htokens' : tokens ++ [.flowListStart] ++ flowItemTokens [] = tokens ++ [.flowListStart] :=
      List.append_nil _
    rw [htokens']
    exact hopen.trans (hclose _ true)
  | cons v items => exact (hopen.trans (passes_items h)).trans (hclose _ false)

theorem passes_members {m : String × Json} {members : List (String × Json)}
    (hkeys : ∀ m' ∈ m :: members, VerbatimKey m'.1.toList)
    (h : ∀ m' ∈ m :: members, PassesValue m'.2) :
    Passes ⟨compactMembers (m :: members) ++ '}' :: rest, tokens, true, depth + 1⟩
      ⟨'}' :: rest, tokens ++ flowMemberTokens (m :: members), false, depth + 1⟩ := by
  have hm := h m List.mem_cons_self
  have hmkey := hkeys m List.mem_cons_self
  induction members generalizing m tokens with
  | nil =>
    obtain ⟨key, v⟩ := m
    have hkey := @passes_key (compactChars v ++ '}' :: rest) tokens depth key.toList hmkey
    have hv := hm ('}' :: rest) (tokens ++ [.key, .scalar key.toList .quoted, .value]) false
      (depth + 1) (endsWord_mark rfl _ _)
    have hchars : compactMembers [(key, v)] ++ '}' :: rest =
        quoted key.toList ++ ':' :: (compactChars v ++ '}' :: rest) := by
      simp [compactMembers]
    have htokens : tokens ++ flowMemberTokens [(key, v)] =
        tokens ++ [.key, .scalar key.toList .quoted, .value] ++ flowTokens v := by
      simp [flowMemberTokens]
    rw [hchars, htokens]
    exact hkey.trans hv
  | cons m' members ih =>
    obtain ⟨key, v⟩ := m
    let behind := ',' :: compactMembers (m' :: members) ++ '}' :: rest
    have hkey := @passes_key (compactChars v ++ behind) tokens depth key.toList hmkey
    have hv := hm behind (tokens ++ [.key, .scalar key.toList .quoted, .value]) false (depth + 1)
      (endsWord_mark rfl _ _)
    have hrest := @ih (tokens ++ [.key, .scalar key.toList .quoted, .value] ++ flowTokens v ++
        [.flowEntry]) m' (fun x hx => hkeys x (List.mem_cons_of_mem _ hx))
      (fun x hx => h x (List.mem_cons_of_mem _ hx)) (h m' (by simp)) (hkeys m' (by simp))
    have hchars : compactMembers ((key, v) :: m' :: members) ++ '}' :: rest =
        quoted key.toList ++ ':' :: (compactChars v ++ behind) := by
      simp [compactMembers, behind]
    have htokens : tokens ++ flowMemberTokens ((key, v) :: m' :: members) =
        tokens ++ [.key, .scalar key.toList .quoted, .value] ++ flowTokens v ++ [.flowEntry] ++
          flowMemberTokens (m' :: members) := by
      simp [flowMemberTokens]
    rw [hchars, htokens]
    exact ((hkey.trans hv).trans passes_comma).trans hrest

theorem passesValue_object {members : List (String × Json)}
    (hkeys : ∀ m ∈ members, VerbatimKey m.1.toList) (h : ∀ m ∈ members, PassesValue m.2) :
    PassesValue (.object members) := by
  intro rest tokens keyAllowed depth _
  have hchars : compactChars (.object members) ++ rest =
      '{' :: (compactMembers members ++ '}' :: rest) := by
    simp [compactChars]
  have htokens : tokens ++ flowTokens (.object members) =
      tokens ++ [.flowMapStart] ++ flowMemberTokens members ++ [.flowMapEnd] := by
    simp [flowTokens]
  rw [hchars, htokens]
  cases members with
  | nil =>
    have htokens' : tokens ++ [.flowMapStart] ++ flowMemberTokens [] = tokens ++ [.flowMapStart] :=
      List.append_nil _
    rw [htokens']
    exact passes_openMap.trans passes_closeMap
  | cons m members => exact (passes_openMap.trans (passes_members hkeys h)).trans passes_closeMap

theorem passesValue {depth : Nat} {v : Json} (hv : v.WellFormed depth) (hread : Legible v) :
    PassesValue v := by
  induction hv with
  | null => exact fun _ _ _ _ hrest => passes_word isWord_null hrest
  | bool b =>
    cases b
    · exact fun _ _ _ _ hrest => passes_word isWord_false hrest
    · exact fun _ _ _ _ hrest => passes_word isWord_true hrest
  | number h => exact fun _ _ _ _ hrest => passes_word (isWord_number h) hrest
  | text s =>
    cases hread with
    | text h => exact fun _ _ _ _ _ => passes_text (verbatim_iff.1 h).2
  | list _ ih =>
    cases hread with
    | list h => exact passesValue_list fun v hv => ih v hv (h v hv)
  | object _ _ ih =>
    cases hread with
    | object hkeys h => exact passesValue_object hkeys fun m hm => ih m hm (h m hm)

/-! ## Whole texts -/

theorem run_end_flow {s : Scan} (h : Stands s ⟨[], tokens, keyAllowed, 0⟩) (fuel : Nat) :
    (run (fuel + 2) s).tokens.toList.take (run (fuel + 2) s).settled = tokens ++ [.streamEnd] ∧
      (run (fuel + 2) s).finished = true := by
  obtain ⟨index, line, column, keys, settled, rfl, hcount, hkeys⟩ := h
  obtain ⟨k, keys, rfl⟩ := List.exists_cons_of_length_eq_add_one hcount
  obtain rfl : keys = [] := List.eq_nil_of_length_eq_zero (Nat.succ.inj hcount)
  let c : Cursor := ⟨[], index, line, column⟩
  let c' : Cursor := if column = 0 then c else { c with line := line + 1, column := 0 }
  obtain ⟨settled', hrun⟩ := @run_flow c tokens keyAllowed [k] settled hkeys startsToken_nil
  let last : Scan := { flow c' (tokens ++ [.streamEnd]) false [none] settled' with finished := true }
  have hk : ∀ key ∈ k.filter (stillPossible c), key.required = false :=
    hkeys.possible c _ List.mem_cons_self
  have hmove : (if column = 0 then flow c tokens keyAllowed (possible c [k]) settled'
      else (flow c tokens keyAllowed (possible c [k]) settled').moveTo
        { c with line := line + 1, column := 0 }) =
      flow c' tokens keyAllowed [k.filter (stillPossible c)] settled' := by
    dsimp only [c']
    split_ifs <;> rfl
  have hend : (flow c tokens keyAllowed (possible c [k]) settled').tokenHere? = some last := by
    change (do
      let s ← (if column = 0 then flow c tokens keyAllowed (possible c [k]) settled'
        else (flow c tokens keyAllowed (possible c [k]) settled').moveTo
          { c with line := line + 1, column := 0 }).closeAllBlocks.dropKey?
      some { (s.allowKey false).push .streamEnd with finished := true }) = _
    rw [hmove]
    have hclose : (flow c' tokens keyAllowed [k.filter (stillPossible c)] settled').closeAllBlocks =
        flow c' tokens keyAllowed [k.filter (stillPossible c)] settled' := rfl
    rw [hclose, dropKey?_flow hk, Option.bind_eq_bind, Option.bind_some]
    have hpush := @push_flow c' tokens false [none] settled' .streamEnd
    exact congrArg (fun s : Scan => some { s with finished := true }) hpush
  have hsettle : last.settle? = some { last with settled := last.tokens.size } := rfl
  have hlast : run (fuel + 2) (flow c tokens keyAllowed [k] settled) =
      { last with settled := last.tokens.size } := by
    rw [hrun last hend (fuel + 1), run, hsettle]
    exact if_pos rfl
  have htokens : last.tokens.toList = tokens ++ [.streamEnd] := rfl
  rw [hlast]
  exact ⟨(List.take_of_length_le (Nat.le_of_eq Array.length_toList)).trans htokens, rfl⟩

/-! ## Faults -/

end Scan

/-- A scan of a text gets to the spot that the text is passed over to. -/
theorem exists_run_of_passes {text : List Char} {f : Scan.Spot}
    (h : Scan.Passes ⟨text, [.streamStart], true, 0⟩ f) : ∃ s fuel, Scan.Stands s f ∧
      Scan.run (text.length + 2) { cursor := ⟨text, 0, 0, 0⟩ } = Scan.run (fuel + 2) s := by
  have hfirst : Scan.Stands { cursor := ⟨text, 0, 0, 0⟩ } ⟨text, [.streamStart], true, 0⟩ :=
    ⟨0, 0, 0, [none], 0, rfl, rfl, fun k hk key hkey => by
      rw [List.mem_singleton.1 hk] at hkey
      cases hkey⟩
  obtain ⟨n, s, hn, hs, hrun⟩ := h _ hfirst
  have hfuel : text.length + 2 = text.length - n + 2 + n := by
    have : n ≤ text.length := Nat.le_trans (Nat.le_add_right n _) hn
    omega
  exact ⟨s, text.length - n, hs, hfuel ▸ hrun _⟩

/-- A text that is passed over from its start to its end. -/
theorem tokens_of_passes {text : List Char} {told : List Token} {keyAllowed : Bool}
    (hpermitted : AllPermitted text) (hstart : StartsToken text)
    (h : Scan.Passes ⟨text, [.streamStart], true, 0⟩
      ⟨[], [.streamStart] ++ told, keyAllowed, 0⟩) :
    tokens text = ⟨.streamStart :: told ++ [.streamEnd], true⟩ := by
  obtain ⟨s, fuel, hs, hrun⟩ := exists_run_of_passes h
  obtain ⟨htokens, hfinished⟩ := Scan.run_end_flow hs fuel
  rw [tokens_eq (List.all_eq_true.2 hpermitted) fun c hc => (hstart c hc).2.2, hrun, htokens,
    hfinished]
  rfl

/-- Every value starts with a token. -/
theorem startsToken_compact {depth : Nat} {v : Json} (hv : v.WellFormed depth) :
    StartsToken (compactChars v) := by
  have hword {w : List Char} (h : IsWord w) : StartsToken w := by
    have := @IsWord.startsToken w [] h
    rwa [List.append_nil] at this
  cases hv with
  | null => exact hword isWord_null
  | bool b =>
    cases b
    · exact hword isWord_false
    · exact hword isWord_true
  | number h => exact hword (isWord_number h)
  | text s => exact startsToken_cons (by decide) _
  | list _ => exact startsToken_cons (by decide) _
  | object _ _ => exact startsToken_cons (by decide) _

/-- **The tokens of compact JSON.** -/
theorem tokens_compact {depth : Nat} {v : Json} (hv : v.WellFormed depth) (hread : Legible v) :
    tokens (compactChars v) = ⟨.streamStart :: flowTokens v ++ [.streamEnd], true⟩ := by
  have hvalue := Scan.passesValue hv hread [] [.streamStart] true 0 (Or.inl rfl)
  rw [List.append_nil] at hvalue
  exact tokens_of_passes (allPermitted_compact hv hread) (startsToken_compact hv) hvalue

/-! ## Objects with one member -/

section

variable {key : String} {v : Json} {t : List Char}

end

end LoginGate.Yaml
