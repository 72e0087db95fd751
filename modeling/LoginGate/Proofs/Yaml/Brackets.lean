import LoginGate.Proofs.Yaml.Values

/-!
# Empty lists and maps

An empty list or map is a pair of brackets, the only flow style that is written.
-/

namespace LoginGate.Yaml

namespace Scan

/-- A scanner between two brackets. -/
def inside (c : Cursor) (tokens : List Token) (indents : List Nat) (key : Option PendingKey)
    (settled : Nat) : Scan :=
  { outside c tokens indents true key settled with keys := [none, key] }

variable {c : Cursor} {tokens : List Token} {indents : List Nat} {keyAllowed : Bool}
  {key : Option PendingKey} {settled : Nat} {t : Token}

theorem flowStart?_outside : (outside c tokens indents keyAllowed none settled).flowStart? t =
    some (inside (c.skip 1) (tokens ++ [t]) indents (noted keyAllowed c tokens indents)
      settled) := by
  rw [flowStart?, noteKey?_outside, Option.bind_eq_bind, Option.bind_some]
  have hpush := @push_outside (c.skip 1) tokens indents true (noted keyAllowed c tokens indents)
    settled t
  exact congrArg (fun s : Scan => some { s with keys := none :: s.keys }) hpush

theorem flowEnd?_inside : (inside c tokens indents key settled).flowEnd? t =
    some (outside (c.skip 1) (tokens ++ [t]) indents false key settled) :=
  congrArg some push_outside

theorem dropStaleKeys?_inside (h : ∀ k ∈ key, k.required = false) :
    (inside c tokens indents key settled).dropStaleKeys? =
      some (inside c tokens indents (key.filter (stillPossible c)) settled) := by
  cases key with
  | none => rfl
  | some k =>
    rw [dropStaleKeys?, if_neg]
    · rfl
    · simp [inside, h k rfl]

theorem settle?_inside (tokens : List Token) (indents : List Nat) (settled : Nat)
    (h : ∀ k ∈ key, k.required = false) :
    ∃ settled', (inside c tokens indents key settled).settle? =
      some (inside c tokens indents (key.filter (stillPossible c)) settled') := by
  rw [settle?, dropStaleKeys?_inside h]
  exact ⟨_, rfl⟩

theorem toNextToken?_inside (hgap : skipGaps true (c.rest.length + 1) true c = (true, c))
    (h : ∀ k ∈ key, k.required = false) :
    (inside c tokens indents key settled).toNextToken? =
      some (inside c tokens indents (key.filter (stillPossible c)) settled) := by
  rw [toNextToken?]
  have hmoved : skipGaps (inside c tokens indents key settled).inFlow
      ((inside c tokens indents key settled).cursor.rest.length + 1)
      (inside c tokens indents key settled).keyAllowed
      (inside c tokens indents key settled).cursor = (true, c) := hgap
  rw [hmoved]
  change (do
    let s ← (inside c tokens indents key settled).dropStaleKeys?
    some (s.closeBlocks c.column)) = _
  rw [dropStaleKeys?_inside h]
  rfl

/-- The brackets of an empty list or map. -/
structure Pair (a b : Char) (first last : Token) : Prop where
  opening : ∀ c tokens indents keyAllowed settled, c.rest.head? = some a →
    (outside c tokens indents keyAllowed none settled).tokenAt? a =
      (outside c tokens indents keyAllowed none settled).flowStart? first
  closing : ∀ c tokens indents key settled, c.rest.head? = some b →
    (inside c tokens indents key settled).tokenAt? b =
      (inside c tokens indents key settled).flowEnd? last
  noGap : ∀ fuel rest index line column, skipGaps true (fuel + 1) true ⟨b :: rest, index, line,
    column⟩ = (true, ⟨b :: rest, index, line, column⟩)

theorem atMarkLine_eq_false {x y : Char} (h : c.rest.head? = some x) (hxy : x ≠ y) :
    c.atMarkLine y = false := by
  obtain ⟨rest, index, line, column⟩ := c
  obtain ⟨rest, rfl⟩ := List.head?_eq_some_iff.1 h
  exact Cursor.atMarkLine_of_head hxy

theorem squarePair : Pair '[' ']' .flowListStart .flowListEnd where
  opening c tokens indents keyAllowed settled h := by
    unfold tokenAt?
    simp [outside, atMarkLine_eq_false h (show '[' ≠ '-' by decide),
      atMarkLine_eq_false h (show '[' ≠ '.' by decide)]
  closing c tokens indents key settled h := by
    unfold tokenAt?
    simp [outside, inside, atMarkLine_eq_false h (show ']' ≠ '-' by decide),
      atMarkLine_eq_false h (show ']' ≠ '.' by decide)]
  noGap fuel rest index line column := by
    simp [skipGaps, Cursor.sees, Cursor.skipWhile, Cursor.span, Cursor.skip, Cursor.skipComment,
      Cursor.startsWith, isByteOrderMark, isBreak]

theorem curlyPair : Pair '{' '}' .flowMapStart .flowMapEnd where
  opening c tokens indents keyAllowed settled h := by
    unfold tokenAt?
    simp [outside, atMarkLine_eq_false h (show '{' ≠ '-' by decide),
      atMarkLine_eq_false h (show '{' ≠ '.' by decide)]
  closing c tokens indents key settled h := by
    unfold tokenAt?
    simp [outside, inside, atMarkLine_eq_false h (show '}' ≠ '-' by decide),
      atMarkLine_eq_false h (show '}' ≠ '.' by decide)]
  noGap fuel rest index line column := by
    simp [skipGaps, Cursor.sees, Cursor.skipWhile, Cursor.span, Cursor.skip, Cursor.skipComment,
      Cursor.startsWith, isByteOrderMark, isBreak]

/-- A pair of brackets is two tokens. -/
theorem leads_brackets {a b : Char} {first last : Token} (hpair : Pair a b first last)
    {rest : List Char} {m n column : Nat} (tokens : List Token) (keyAllowed : Bool)
    (h : AtValue indents m n column rest) :
    Leads ⟨[a, b] ++ '\n' :: indentation n ++ rest, column, tokens, indents, keyAllowed⟩
      (arrival indents (tokens ++ [first, last]) true n rest) := by
  intro scan hscan
  obtain ⟨index, line, settled, hstep⟩ := hscan.step
  let c : Cursor := ⟨a :: b :: ('\n' :: indentation n ++ rest), index, line, column⟩
  let key := noted keyAllowed c tokens indents
  have hkey : ∀ k ∈ key, k.required = false ∧ k.line ≠ line + 1 :=
    h.not_required rfl (show c.line < (⟨[], 0, line + 1, 0⟩ : Cursor).line from Nat.lt_succ_self line)
  have hrun := hstep _ ((hpair.opening c tokens indents keyAllowed settled rfl).trans
    flowStart?_outside)
  -- The noted key may be given up on the way, but it is none that is waited for.
  let c' : Cursor := ⟨b :: ('\n' :: indentation n ++ rest), index + 1, line, column + 1⟩
  let key' := (key.filter (stillPossible c')).filter (stillPossible c')
  have hfilter : ∀ k ∈ key.filter (stillPossible c'), k.required = false := fun k hk =>
    (hkey k (Option.mem_filter_iff.1 hk).1).1
  obtain ⟨settled', hsettle⟩ := @settle?_inside c' key (tokens ++ [first]) indents settled
    fun k hk => (hkey k hk).1
  have hstep' : (inside c' (tokens ++ [first]) indents key settled).settle?.bind step? =
      some (outside (c'.skip 1) (tokens ++ [first] ++ [last]) indents false key' settled') := by
    rw [hsettle, Option.bind_some, step?_eq, toNextToken?_inside (hpair.noGap _ _ _ _ _) hfilter,
      Option.bind_some]
    exact (hpair.closing c' _ indents key' settled' rfl).trans flowEnd?_inside
  have hreach := @reaches_outside (c'.skip 1) ⟨rest, index + 1 + 1 + 1 + n, line + 1, n⟩
    (tokens ++ [first] ++ [last]) indents false key' settled' true
    (skipGaps_newline h.starts _ _ _ _ _ _) fun k hk =>
      hkey k (Option.mem_filter_iff.1 (Option.mem_filter_iff.1 hk).1).1
  rw [List.append_assoc, List.singleton_append] at hreach
  refine ⟨2, _, ?_, hreach, fun fuel => ?_⟩
  · simp only [arrival, List.length_append, List.length_cons]
    omega
  · rw [hrun (fuel + 1)]
    exact (run_step rfl hstep' fuel).trans (by rw [List.append_assoc, List.singleton_append])

end Scan

end LoginGate.Yaml
