import LoginGate.Proofs.Yaml.BlockScalars
import LoginGate.Proofs.Yaml.PlainTexts
import LoginGate.Proofs.Yaml.QuotedScalars

/-!
# Scalars as values

A scalar behind a mark or a colon is one token, whatever its style: it ends with its line or with
its block, and the scan arrives at the next line.
-/

namespace LoginGate.Yaml

open LoginGate.Text

namespace Scan

variable {rest : List Char} {tokens : List Token} {indents : List Nat} {keyAllowed : Bool}
  {m n column : Nat}

/-- Where a value stands: to the right of the innermost block, and what follows is not. -/
structure AtValue (indents : List Nat) (m n column : Nat) (rest : List Char) : Prop where
  head? : indents.head? = some m
  lt : m < column
  le : n ≤ m
  starts : StartsToken rest

variable (h : AtValue indents m n column rest)

include h

/-- A value does not have to be a key. -/
theorem AtValue.not_required {c : Cursor} (hc : c.column = column) {c' : Cursor}
    (hline : c.line < c'.line) :
    ∀ k ∈ noted keyAllowed c tokens indents, k.required = false ∧ k.line ≠ c'.line := by
  intro k hk
  cases keyAllowed with
  | false => cases hk
  | true =>
    rw [← Option.some.inj hk]
    refine ⟨?_, Nat.ne_of_lt hline⟩
    rw [pending, h.head?, hc]
    exact beq_false_of_ne fun hcolumn => Nat.ne_of_lt h.lt (Option.some.inj hcolumn)

theorem AtValue.leastColumn : leastColumn indents = m + 1 := by rw [Scan.leastColumn, h.head?]

/-- A token is read, and the next one starts on another line. -/
theorem AtValue.leads {written : List Char} {t : Token} (hlength : rest.length < written.length)
    (hread : ∀ index line settled, ∃ behind keyAllowed' index' line',
      (outside ⟨written, index, line, column⟩ tokens indents keyAllowed none settled).tokenHere? =
        some (outside behind (tokens ++ [t]) indents keyAllowed'
          (noted keyAllowed ⟨written, index, line, column⟩ tokens indents) settled) ∧
      skipGaps false (behind.rest.length + 1) keyAllowed' behind =
        (true, ⟨rest, index', line', n⟩) ∧ line < line') :
    Leads ⟨written, column, tokens, indents, keyAllowed⟩
      (arrival indents (tokens ++ [t]) true n rest) := by
  refine leads_of_token hlength fun index line settled => ?_
  obtain ⟨behind, keyAllowed', index', line', hnext, hgap, hline⟩ := hread index line settled
  refine ⟨_, hnext, reaches_outside hgap ?_⟩
  exact h.not_required rfl hline

omit h in
theorem length_lt_line (s : List Char) (n : Nat) (rest : List Char) :
    rest.length < (s ++ '\n' :: indentation n ++ rest).length := by
  simp only [List.length_append, List.length_cons]
  omega

variable (tokens keyAllowed)

theorem leads_plain {s : List Char} (hs : IsPlain s) :
    Leads ⟨s ++ '\n' :: indentation n ++ rest, column, tokens, indents, keyAllowed⟩
      (arrival indents (tokens ++ [.scalar s .plain]) true n rest) := by
  refine h.leads (length_lt_line s n rest) fun index line settled => ?_
  have hdash := @atMarkLine_plain s ('\n' :: indentation n ++ rest) index line column hs '-'
    (Or.inl rfl) (by simp)
  have hdot := @atMarkLine_plain s ('\n' :: indentation n ++ rest) index line column hs '.'
    (Or.inr rfl) (by simp)
  have hmark : (⟨s ++ '\n' :: indentation n ++ rest, index, line, column⟩
      : Cursor).atDocumentMark = false := by
    rw [List.append_assoc, Cursor.atDocumentMark, hdash, hdot, Bool.or_false]
  have hread := @Cursor.plainScalar?_line (Scan.leastColumn indents) index line column rest s
    hs.words hs.ne_nil (fun c hc => ⟨(hs.head c hc).1, (ne_of_isLeadingIndicator (hs.head c hc).2).1⟩)
    n hmark h.starts.noGap (by rw [h.leastColumn]; exact Nat.lt_succ_of_le h.le)
    (by rw [h.leastColumn]; exact Nat.succ_le_succ (Nat.le_of_lt h.lt))
  refine ⟨⟨rest, index + s.length + 1 + n, line + 1, n⟩, true, index + s.length + 1 + n, line + 1,
    ?_, skipGaps_start h.starts _ _ _ _ _, Nat.lt_succ_self line⟩
  obtain ⟨x, s, rfl⟩ := List.exists_cons_of_ne_nil hs.ne_nil
  rw [List.append_assoc] at hread ⊢
  exact (tokenAt?_plain hs (by simp) (by simp) _ _ _ _ _).trans (plainScalar?_outside hread)

theorem leads_quoted {quote : Quote} {written text : List Char} (hpieces : Pieces quote written text) :
    Leads ⟨quote.char :: written ++ [quote.char] ++ '\n' :: indentation n ++ rest, column, tokens,
        indents, keyAllowed⟩
      (arrival indents (tokens ++ [.scalar text .quoted]) true n rest) := by
  refine h.leads (length_lt_line _ n rest) fun index line settled => ?_
  obtain ⟨behind, hbehind, hread⟩ := @quotedScalar?_pieces quote written text
    ('\n' :: indentation n ++ rest) hpieces (by cases quote <;> rfl) index line column
  have hcursor : behind = ⟨'\n' :: indentation n ++ rest, behind.index, behind.line,
      behind.column⟩ := by rw [← hbehind.rest_eq]
  rw [List.append_assoc]
  refine ⟨behind, false, behind.index + 1 + n, behind.line + 1, ?_, ?_,
    Nat.lt_succ_of_le hbehind.line_le⟩
  · cases quote with
    | single =>
      refine (tokenAt?_single _).trans (keyToken?_outside ?_)
      exact (congrArg _ hread)
    | double =>
      refine (tokenAt?_double _).trans (keyToken?_outside ?_)
      exact (congrArg _ hread)
  · rw [hcursor]
    exact skipGaps_newline h.starts _ _ _ _ _ _

theorem leads_literal {s : List Char} (hne : s ≠ []) (hfits : FitsLines s) :
    Leads ⟨literalBlock (m + 2) s ++ afterBlock s n rest, column, tokens, indents, keyAllowed⟩
      (arrival indents (tokens ++ [.scalar s .block]) true n rest) := by
  refine leads_of_token ?_ fun index line settled => ?_
  · simp only [arrival, literalBlock, afterBlock, List.length_append, List.length_cons]
    omega
  · obtain ⟨behind, hrest, hcolumn, hline, hread⟩ :=
      blockScalar?_literal h.le h.starts hne hfits index line column
    have hcursor : behind = ⟨rest, behind.index, behind.line, n⟩ := by rw [← hrest, ← hcolumn]
    refine ⟨outside behind (tokens ++ [.scalar s .block]) indents true none settled,
      (tokenAt?_literal _).trans (blockScalar?_outside ?_), ?_⟩
    · rw [h.head?]
      exact hread
    · rw [hcursor]
      exact reaches_outside (skipGaps_start h.starts _ _ _ _ _) fun k hk => by cases hk

end Scan

end LoginGate.Yaml
