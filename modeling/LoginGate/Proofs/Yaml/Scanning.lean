import LoginGate.Proofs.Yaml.Gaps

/-!
# The scanner between two tokens

A `Face` is what decides which tokens come next: what is still to be read, the column, the tokens so
far and the open blocks.  A scan reaches a face, where the next token starts, by passing over a gap
and closing blocks:

    Reaches s f      the scan `s` comes to the face `f` before its next token
    Leads f g        a scan that reaches `f` gets to one that reaches `g`, in no more steps than the
                     characters between them

`Leads` is transitive, so that what is written can be scanned piece by piece.
-/

namespace LoginGate.Yaml

namespace Scan

/-- A scanner outside of brackets. -/
def outside (c : Cursor) (tokens : List Token) (indents : List Nat) (keyAllowed : Bool)
    (key : Option PendingKey) (settled : Nat) : Scan where
  cursor := c
  tokens := tokens.toArray
  indents := indents
  keyAllowed := keyAllowed
  keys := [key]
  settled := settled

/-- The ends of the blocks that do not stay open. -/
def blockEnds (keep : Nat → Bool) (indents : List Nat) : List Token :=
  (indents.takeWhile (!keep ·)).map fun _ => .blockEnd

theorem closeFrom_eq (keep : Nat → Bool) (indents : List Nat) (tokens : List Token) :
    closeFrom keep indents tokens.toArray =
      (indents.dropWhile (!keep ·), (tokens ++ blockEnds keep indents).toArray) := by
  induction indents generalizing tokens with
  | nil => rw [closeFrom, blockEnds, List.takeWhile_nil, List.map_nil, List.append_nil]; rfl
  | cons n rest ih =>
    rw [closeFrom, blockEnds]
    cases hkeep : keep n with
    | true => simp [hkeep]
    | false =>
      rw [if_neg Bool.false_ne_true, List.push_toArray, ih, blockEnds]
      simp [hkeep]

variable {c c' : Cursor} {tokens : List Token} {indents : List Nat} {keyAllowed : Bool}
  {key : Option PendingKey} {settled : Nat}

theorem closeBlocks_outside (column : Nat) :
    (outside c tokens indents keyAllowed key settled).closeBlocks column =
      outside c (tokens ++ blockEnds (· ≤ column) indents)
        (indents.dropWhile fun n => !decide (n ≤ column)) keyAllowed key settled := by
  simp only [closeBlocks, outside, inFlow, List.length_singleton, Nat.lt_irrefl, decide_false,
    Bool.false_eq_true, if_false, closeFrom_eq]

theorem dropStaleKeys?_outside
    (h : ∀ k ∈ key, stillPossible c k = false → k.required = false) :
    (outside c tokens indents keyAllowed key settled).dropStaleKeys? =
      some (outside c tokens indents keyAllowed (key.filter (stillPossible c)) settled) := by
  cases key with
  | none => rfl
  | some k =>
    rw [dropStaleKeys?, if_neg]
    · rfl
    · have hk := h k rfl
      cases hpossible : stillPossible c k with
      | true => simp [outside, hpossible]
      | false => simp [outside, hpossible, hk hpossible]

theorem settle?_outside (tokens : List Token) (indents : List Nat) (keyAllowed : Bool)
    (settled : Nat) (h : ∀ k ∈ key, stillPossible c k = false → k.required = false) :
    ∃ settled', (outside c tokens indents keyAllowed key settled).settle? =
      some (outside c tokens indents keyAllowed (key.filter (stillPossible c)) settled') := by
  rw [settle?, dropStaleKeys?_outside h]
  exact ⟨_, rfl⟩

/-! ## Faces -/

/-- What decides which tokens come next. -/
structure Face where
  rest : List Char
  column : Nat
  tokens : List Token
  indents : List Nat
  keyAllowed : Bool

/-- A scan where the next token starts. -/
def Face.scan (f : Face) (index line settled : Nat) : Scan :=
  outside ⟨f.rest, index, line, f.column⟩ f.tokens f.indents f.keyAllowed none settled

/-- The face in a column, with the blocks to the right of it closed. -/
def arrival (indents : List Nat) (tokens : List Token) (keyAllowed : Bool) (column : Nat)
    (rest : List Char) : Face where
  rest := rest
  column := column
  tokens := tokens ++ blockEnds (· ≤ column) indents
  indents := indents.dropWhile fun n => !decide (n ≤ column)
  keyAllowed := keyAllowed

/-- No block closes to the right of the innermost one. -/
theorem arrival_of_le {column : Nat} (h : ∀ n ∈ indents.head?, n ≤ column) (rest : List Char) :
    arrival indents tokens keyAllowed column rest = ⟨rest, column, tokens, indents, keyAllowed⟩ := by
  cases indents with
  | nil => simp [arrival, blockEnds]
  | cons n indents => simp [arrival, blockEnds, h n rfl]

/-- A block that is to the right of the column ends. -/
theorem arrival_of_lt {n column : Nat} (h : column < n) (rest : List Char) :
    arrival (n :: indents) tokens keyAllowed column rest =
      arrival indents (tokens ++ [.blockEnd]) keyAllowed column rest := by
  simp [arrival, blockEnds, Nat.not_le.2 h]

/-- The token at the cursor, or the end of the text. -/
def tokenHere? (s : Scan) : Option Scan :=
  match s.cursor.head? with
  | none => s.streamEnd?
  | some x => s.tokenAt? x

theorem step?_eq (s : Scan) : s.step? = s.toNextToken?.bind tokenHere? := rfl

/-- The scan comes to the face before its next token. -/
def Reaches (s : Scan) (f : Face) : Prop :=
  s.finished = false ∧
    ∃ index line settled, s.settle?.bind toNextToken? = some (f.scan index line settled)

theorem toNextToken?_outside {keyAllowed' : Bool}
    (hgap : skipGaps false (c.rest.length + 1) keyAllowed c = (keyAllowed', c'))
    (hkey : ∀ k ∈ key, stillPossible c' k = false → k.required = false) :
    (outside c tokens indents keyAllowed key settled).toNextToken? =
      some (outside c' (tokens ++ blockEnds (· ≤ c'.column) indents)
        (indents.dropWhile fun n => !decide (n ≤ c'.column)) keyAllowed'
        (key.filter (stillPossible c')) settled) := by
  rw [toNextToken?]
  have hmoved : skipGaps (outside c tokens indents keyAllowed key settled).inFlow
      ((outside c tokens indents keyAllowed key settled).cursor.rest.length + 1)
      (outside c tokens indents keyAllowed key settled).keyAllowed
      (outside c tokens indents keyAllowed key settled).cursor = (keyAllowed', c') := hgap
  rw [hmoved]
  have hdrop : (outside c' tokens indents keyAllowed' key settled).dropStaleKeys? = _ :=
    dropStaleKeys?_outside hkey
  change (do
    let s ← (outside c' tokens indents keyAllowed' key settled).dropStaleKeys?
    some (s.closeBlocks c'.column)) = _
  rw [hdrop, Option.bind_eq_bind, Option.bind_some, closeBlocks_outside]

/-- A scan reaches the next token when no key is waited for any more. -/
theorem reaches_outside {keyAllowed' : Bool}
    (hgap : skipGaps false (c.rest.length + 1) keyAllowed c = (keyAllowed', c'))
    (hkey : ∀ k ∈ key, k.required = false ∧ k.line ≠ c'.line) :
    Reaches (outside c tokens indents keyAllowed key settled)
      (arrival indents tokens keyAllowed' c'.column c'.rest) := by
  obtain ⟨settled', hsettle⟩ := settle?_outside tokens indents keyAllowed settled
    fun k hk (_ : stillPossible c k = false) => (hkey k hk).1
  have hrequired : ∀ k ∈ key.filter (stillPossible c),
      stillPossible c' k = false → k.required = false := fun k hk _ =>
    (hkey k (Option.mem_filter_iff.1 hk).1).1
  refine ⟨rfl, c'.index, c'.line, settled', ?_⟩
  have hgone : (key.filter (stillPossible c)).filter (stillPossible c') = none := by
    rw [Option.filter_eq_none_iff]
    intro k hk
    rw [stillPossible, beq_false_of_ne (hkey k (Option.mem_filter_iff.1 hk).1).2, Bool.false_and]
    exact Bool.false_ne_true
  rw [hsettle, Option.bind_some, toNextToken?_outside hgap hrequired, hgone]
  rfl

/-! ## Runs -/

theorem finished_of_settle? {s s' : Scan} (h : s.settle? = some s') : s'.finished = s.finished := by
  rw [settle?, dropStaleKeys?] at h
  split at h
  · cases h
  · cases h
    rfl

theorem run_step {s next : Scan} (hfinished : s.finished = false)
    (h : s.settle?.bind step? = some next) (fuel : Nat) : run (fuel + 1) s = run fuel next := by
  obtain ⟨s', hs', hnext⟩ := Option.bind_eq_some_iff.1 h
  rw [run, hs']
  dsimp only
  rw [finished_of_settle? hs', hfinished, if_neg Bool.false_ne_true, hnext]

theorem Reaches.step {s : Scan} {f : Face} (h : Reaches s f) :
    ∃ index line settled, ∀ next, (f.scan index line settled).tokenHere? = some next →
      ∀ fuel, run (fuel + 1) s = run fuel next := by
  obtain ⟨hfinished, index, line, settled, hface⟩ := h
  refine ⟨index, line, settled, fun next hnext => run_step hfinished ?_⟩
  obtain ⟨s', hs', hface⟩ := Option.bind_eq_some_iff.1 hface
  rw [hs', Option.bind_some, step?_eq, hface, Option.bind_some, hnext]

/-- A scan that reaches one face gets to one that reaches the other. -/
def Leads (f g : Face) : Prop :=
  ∀ s, Reaches s f → ∃ n s', n + g.rest.length ≤ f.rest.length ∧ Reaches s' g ∧
    ∀ fuel, run (fuel + n) s = run fuel s'

theorem Leads.refl (f : Face) : Leads f f := fun s h =>
  ⟨0, s, Nat.le_of_eq (Nat.zero_add _), h, fun _ => rfl⟩

theorem Leads.trans {f g h : Face} (hfg : Leads f g) (hgh : Leads g h) : Leads f h := by
  intro s hs
  obtain ⟨n, s', hn, hs', hrun⟩ := hfg s hs
  obtain ⟨m, s'', hm, hs'', hrun'⟩ := hgh s' hs'
  refine ⟨m + n, s'', by omega, hs'', fun fuel => ?_⟩
  rw [← Nat.add_assoc, hrun, hrun']

theorem leads_of_token {f g : Face} (hlength : g.rest.length < f.rest.length)
    (h : ∀ index line settled, ∃ next,
      (f.scan index line settled).tokenHere? = some next ∧ Reaches next g) : Leads f g := by
  intro s hs
  obtain ⟨index, line, settled, hstep⟩ := hs.step
  obtain ⟨next, hnext, hreach⟩ := h index line settled
  exact ⟨1, next, by omega, hreach, fun fuel => hstep next hnext fuel⟩

end Scan

end LoginGate.Yaml
