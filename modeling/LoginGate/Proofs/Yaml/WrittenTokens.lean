import LoginGate.Proofs.Yaml.Blocks

/-!
# The tokens of a written document

    tokens (write v).toList = ⟨.streamStart :: valueTokens false v ++ [.streamEnd], true⟩

for every object `v` that is tidy and not empty (`tokens_write`).
-/

namespace LoginGate.Yaml

open LoginGate.Text

/-! ## Characters -/

def AllPlain (s : List Char) : Prop := ∀ c ∈ s, isPlainCharacter c = true

theorem isPermitted_of_isPlainCharacter {c : Char} (h : isPlainCharacter c = true) :
    isPermitted c = true := by
  simp only [isPlainCharacter, isPermitted, Bool.or_eq_true, Bool.and_eq_true,
    decide_eq_true_eq] at h ⊢
  omega

theorem allPlain_nil : AllPlain [] := fun _ h => absurd h List.not_mem_nil

theorem allPlain_cons {c : Char} {s : List Char} (hc : isPlainCharacter c = true) (h : AllPlain s) :
    AllPlain (c :: s) := fun _ hd => (List.mem_cons.1 hd).elim (fun hd => hd ▸ hc) (h _)

theorem AllPlain.append {s t : List Char} (hs : AllPlain s) (ht : AllPlain t) : AllPlain (s ++ t) :=
  fun c hc => (List.mem_append.1 hc).elim (hs c) (ht c)

theorem allPlain_indentation (n : Nat) : AllPlain (indentation n) := fun c hc => by
  rw [List.eq_of_mem_replicate hc]
  rfl

theorem AllPlain.endLine {s : List Char} (h : AllPlain s) : AllPlain (endLine s) := by
  rw [Yaml.endLine]
  split
  · exact h
  · exact h.append (allPlain_cons rfl allPlain_nil)

theorem allPlain_indentLines {s : List Char} (h : AllPlain s) {write : Char → List Char}
    (hwrite : ∀ c ∈ s, AllPlain (write c)) (column : Nat) (last fresh : Bool) :
    AllPlain (indentLines column write last fresh s) := by
  induction s generalizing fresh with
  | nil =>
    rw [indentLines]
    split
    · exact allPlain_indentation column
    · exact allPlain_nil
  | cons c s ih =>
    have hrest (fresh : Bool) := ih (fun d hd => h d (List.mem_cons_of_mem c hd))
      (fun d hd => hwrite d (List.mem_cons_of_mem c hd)) fresh
    rw [indentLines]
    split
    · exact allPlain_cons (h c List.mem_cons_self) (hrest true)
    · refine (AllPlain.append ?_ (hwrite c List.mem_cons_self)).append (hrest false)
      split
      · exact allPlain_indentation column
      · exact allPlain_nil

theorem allPlain_writeText (column : Nat) (s : List Char) : AllPlain (writeText column s) := by
  have hstyled := styled s
  rw [writeText]
  cases hstyle : styleOf s <;> rw [hstyle] at hstyled <;> cases hstyled
  case plain hfits _ _ => exact ((fitsPlain_iff s).1 hfits).1
  case singleQuoted hfits _ =>
    have hplain := (forall_isPlainCharacter ((fitsSingleQuotes_iff s).1 hfits).1).1
    have hquoted : ∀ c ∈ s, AllPlain (singleQuotedChar c) := fun c hc => by
      rw [singleQuotedChar]
      split
      · exact allPlain_cons rfl (allPlain_cons rfl allPlain_nil)
      · exact allPlain_cons (hplain c hc) allPlain_nil
    have hlines := allPlain_indentLines hplain hquoted column true false
    exact (allPlain_cons rfl hlines).append (allPlain_cons rfl allPlain_nil)
  case doubleQuoted =>
    have hescaped : AllPlain (s.flatMap escapeChar) := fun c hc => by
      obtain ⟨d, -, hd⟩ := List.mem_flatMap.1 hc
      have := (escapeChar_spec d).1 c hd
      rw [isLineCharacter, Bool.and_eq_true] at this
      exact this.1
    exact (allPlain_cons rfl hescaped).append (allPlain_cons rfl allPlain_nil)
  case literal hfits _ =>
    rw [fitsBlock, Bool.and_eq_true, Bool.not_eq_true'] at hfits
    have hplain := (forall_isPlainCharacter hfits.1).1
    have hlines := allPlain_indentLines hplain
      (fun c hc => allPlain_cons (hplain c hc) allPlain_nil) column false true
    have hmark : AllPlain (indentationMark s) := by
      rw [indentationMark]
      split
      · exact allPlain_cons rfl allPlain_nil
      · exact allPlain_nil
    have hchomping : AllPlain (chompingMark s) := by
      unfold chompingMark
      split <;> (repeat' split) <;>
        first | exact allPlain_nil | exact allPlain_cons rfl allPlain_nil
    exact ((allPlain_cons rfl hmark).append hchomping).append (allPlain_cons rfl hlines)

theorem allPlain_writeEntries (column : Nat) {entries : List (List Char)}
    (h : ∀ entry ∈ entries, AllPlain entry) : AllPlain (writeEntries column entries) := by
  induction entries with
  | nil => exact allPlain_nil
  | cons entry entries ih =>
    cases entries with
    | nil => exact h entry List.mem_cons_self
    | cons next entries =>
      rw [writeEntries]
      · exact ((h entry List.mem_cons_self).endLine.append (allPlain_indentation column)).append
          (ih fun x hx => h x (List.mem_cons_of_mem entry hx))
      · simp

/-- A value is written with ordinary characters, in place and behind a key. -/
def WrittenPlain (v : Json) : Prop :=
  ∀ column, AllPlain (writeInPlace column v) ∧ AllPlain (writeAfterKey column v)

theorem allPlain_writeItems {items : List Json} (h : ∀ v ∈ items, WrittenPlain v) (column : Nat) :
    AllPlain (writeEntries column (writeItems column items)) := by
  refine allPlain_writeEntries column fun entry hentry => ?_
  induction items with
  | nil => cases hentry
  | cons v items ih =>
    obtain rfl | hentry := List.mem_cons.1 hentry
    · exact allPlain_cons rfl (allPlain_cons rfl (h v List.mem_cons_self (column + 2)).1)
    · exact ih (fun w hw => h w (List.mem_cons_of_mem v hw)) hentry

theorem allPlain_writeMembers {members : List (String × Json)}
    (h : ∀ member ∈ members, WrittenPlain member.2) (column : Nat) :
    AllPlain (writeEntries column (writeMembers column members)) := by
  refine allPlain_writeEntries column fun entry hentry => ?_
  induction members with
  | nil => cases hentry
  | cons member members ih =>
    obtain ⟨key, v⟩ := member
    obtain rfl | hentry := List.mem_cons.1 hentry
    · have hkey := allPlain_writeText (column + 2) key.toList
      have hv := h _ List.mem_cons_self
      split
      · exact hkey.append (hv column).2
      · exact ((allPlain_cons rfl (allPlain_cons rfl hkey)).endLine.append
          (allPlain_indentation column)).append
            (allPlain_cons rfl (allPlain_cons rfl (hv (column + 2)).1))
    · exact ih (fun w hw => h w (List.mem_cons_of_mem _ hw)) hentry

theorem allPlain_decimal (n : Nat) : AllPlain (decimal n) := fun _ hc =>
  (isDigit_spec (isDigit_of_mem_decimal hc)).1

theorem writtenPlain_scalar {v : Json} {depth : Nat} (hv : v.Tidy depth) (hblock : isBlock v = false)
    (h : ∀ column, AllPlain (writeInPlace column v)) : WrittenPlain v := fun column => by
  refine ⟨h column, ?_⟩
  rw [writeAfterKey_scalar hv hblock]
  exact allPlain_cons rfl (allPlain_cons rfl (h _))

theorem writtenPlain_tidy {v : Json} {depth : Nat} (hv : v.Tidy depth) : WrittenPlain v := by
  have hword {s : List Char} (h : s.all isPlainCharacter = true) : AllPlain s :=
    List.all_eq_true.1 h
  induction hv with
  | null =>
    exact writtenPlain_scalar (.null : Json.Tidy 0 _) rfl fun _ => @hword "null".toList (by decide)
  | bool b =>
    refine writtenPlain_scalar (.bool b : Json.Tidy 0 _) rfl fun _ => ?_
    cases b
    · exact @hword "false".toList (by decide)
    · exact @hword "true".toList (by decide)
  | @number _ n h =>
    refine writtenPlain_scalar (.number h : Json.Tidy 0 _) rfl fun _ => ?_
    show AllPlain (Json.Number.whole n).text
    rw [Json.text_ofNat]
    exact allPlain_decimal n
  | text s => exact writtenPlain_scalar (.text s : Json.Tidy 0 _) rfl fun _ => allPlain_writeText _ _
  | @list depth items htidy ih =>
    cases items with
    | nil => exact writtenPlain_scalar (.list htidy) rfl fun _ => @hword ['[', ']'] (by decide)
    | cons v items =>
      refine fun column => ⟨allPlain_writeItems ih column, ?_⟩
      exact (allPlain_cons rfl (allPlain_cons rfl (allPlain_indentation column))).append
        (allPlain_writeItems ih column)
  | @object depth members hascending htidy ih =>
    cases members with
    | nil =>
      exact writtenPlain_scalar (.object hascending htidy) rfl fun _ => @hword ['{', '}'] (by decide)
    | cons member members =>
      refine fun column => ⟨allPlain_writeMembers ih column, ?_⟩
      exact (allPlain_cons rfl (allPlain_cons rfl (allPlain_indentation (column + 2)))).append
        (allPlain_writeMembers ih (column + 2))

/-! ## Whole documents -/

namespace Scan

/-- At the end of the text all blocks close. -/
theorem Reaches.run_end {s : Scan} {tokens : List Token} {indents : List Nat} {keyAllowed : Bool}
    (h : Reaches s ⟨[], 0, tokens, indents, keyAllowed⟩) (fuel : Nat) :
    (run (fuel + 2) s).tokens.toList.take (run (fuel + 2) s).settled =
        tokens ++ blockEnds (fun _ => false) indents ++ [.streamEnd] ∧
      (run (fuel + 2) s).finished = true := by
  obtain ⟨index, line, settled, hstep⟩ := h.step
  let c : Cursor := ⟨[], index, line, 0⟩
  let last : Scan := { outside c (tokens ++ blockEnds (fun _ => false) indents ++ [.streamEnd]) []
    false none settled with finished := true }
  have hclose : (outside c tokens indents keyAllowed none settled).closeAllBlocks =
      outside c (tokens ++ blockEnds (fun _ => false) indents) [] keyAllowed none settled := by
    simp only [closeAllBlocks, outside, inFlow, List.length_singleton, Nat.lt_irrefl, decide_false,
      Bool.false_eq_true, if_false, closeFrom_eq]
  have hend : (outside c tokens indents keyAllowed none settled).tokenHere? = some last := by
    change (do
      let s ← (outside c tokens indents keyAllowed none settled).closeAllBlocks.dropKey?
      some { (s.allowKey false).push .streamEnd with finished := true }) = _
    rw [hclose]
    have hpush := @push_outside c (tokens ++ blockEnds (fun _ => false) indents) [] false none settled
      .streamEnd
    exact congrArg (fun s : Scan => some { s with finished := true }) hpush
  have hsettle : last.settle? = some { last with settled := last.tokens.size } := rfl
  have hrun : run (fuel + 2) s = { last with settled := last.tokens.size } := by
    rw [hstep last hend (fuel + 1), run, hsettle]
    exact if_pos rfl
  have htokens : last.tokens.toList =
      tokens ++ blockEnds (fun _ => false) indents ++ [.streamEnd] := rfl
  rw [hrun]
  exact ⟨(List.take_of_length_le (Nat.le_of_eq Array.length_toList)).trans htokens, rfl⟩

end Scan

theorem tokens_eq {text : List Char} (hpermitted : text.all isPermitted = true)
    (hmark : ∀ c ∈ text.head?, isByteOrderMark c = false) :
    tokens text =
      ⟨(Scan.run (text.length + 2) { cursor := ⟨text, 0, 0, 0⟩ }).tokens.toList.take
        (Scan.run (text.length + 2) { cursor := ⟨text, 0, 0, 0⟩ }).settled,
        (Scan.run (text.length + 2) { cursor := ⟨text, 0, 0, 0⟩ }).finished⟩ := by
  cases text with
  | nil => rfl
  | cons c text =>
    delta tokens
    dsimp only
    rw [hmark c rfl, if_neg Bool.false_ne_true, hpermitted, if_pos rfl]

/-- The tokens of a written document. -/
theorem tokens_write {member : String × Json} {members : List (String × Json)} {depth : Nat}
    (hv : (Json.object (member :: members)).Tidy depth) :
    tokens (write (.object (member :: members))).toList =
      ⟨.streamStart :: valueTokens false (.object (member :: members)) ++ [.streamEnd], true⟩ := by
  let text := endLine (writeInPlace 0 (.object (member :: members)))
  have htext : (write (.object (member :: members))).toList = text := String.toList_ofList
  have hbegins : Begins text := (begins_writeInPlace hv 0).endLine
  have hstart : StartsToken text := by
    have := hbegins.startsToken []
    rwa [List.append_nil] at this
  have hpermitted : text.all isPermitted = true := by
    rw [List.all_eq_true]
    exact fun c hc => isPermitted_of_isPlainCharacter ((writtenPlain_tidy hv 0).1.endLine c hc)
  cases hv with
  | object _ htidy =>
    have hopens : Scan.Opens .blockMapStart 0 [] [.blockMapStart] [0] :=
      .opens fun n hn => by cases hn
    have hmembers := Scan.leads_members (List.cons_ne_nil member members) htidy
      (fun m hm => (Scan.read_tidy (htidy m hm)).1) (fun m hm => (Scan.read_tidy (htidy m hm)).2)
      hopens (Nat.le_refl 0) startsToken_nil [.streamStart]
    have hfirst : Scan.Reaches { cursor := ⟨text, 0, 0, 0⟩ } ⟨text, 0, [.streamStart], [], true⟩ := by
      have := @Scan.reaches_outside ⟨text, 0, 0, 0⟩ ⟨text, 0, 0, 0⟩ [.streamStart] [] true none 0 true
        (Scan.skipGaps_start hstart _ _ _ _ _) fun k hk => by cases hk
      rwa [Scan.arrival_of_le fun n hn => by cases hn] at this
    have hentries : text = endLine (writeEntries 0 (writeMembers 0 (member :: members))) := rfl
    rw [Scan.arrival_of_head? rfl, indentation, List.replicate_zero, List.append_nil,
      List.append_nil, ← hentries] at hmembers
    obtain ⟨n, s, hn, hs, hrun⟩ := hmembers _ hfirst
    have hfuel : text.length + 2 = text.length - n + 2 + n := by
      have : n ≤ text.length := Nat.le_trans (Nat.le_add_right n _) hn
      omega
    obtain ⟨htokens, hfinished⟩ := hs.run_end (text.length - n)
    rw [htext, tokens_eq hpermitted fun c hc => (hstart c hc).2.2, hfuel, hrun, htokens, hfinished,
      valueTokens]
    simp [Scan.blockEnds]

end LoginGate.Yaml
