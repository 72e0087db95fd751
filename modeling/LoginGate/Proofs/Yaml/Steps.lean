import LoginGate.Proofs.Yaml.Scanning

/-!
# Single tokens

What the scanner does at each kind of token that is written: the marks of entries, keys and values
open blocks where they stand to the right of the open ones (`Opens`), and a scalar may turn out to
be a key, which is noted until its line ends.
-/

namespace LoginGate.Yaml

/-! ## Marks of documents -/

namespace Cursor

variable {rest : List Char} {index line column : Nat}

theorem atMarkLine_of_head {x y : Char} (h : x ≠ y) :
    (⟨x :: rest, index, line, column⟩ : Cursor).atMarkLine y = false := by
  have htake : ((x :: rest).take 3 == [y, y, y]) = false := beq_false_of_ne fun hxy =>
    h (List.cons.inj hxy).1
  rw [atMarkLine]
  dsimp only
  rw [htake, Bool.and_false, Bool.false_and]

theorem atMarkLine_of_second {x y z : Char} (h : z ≠ y) :
    (⟨x :: z :: rest, index, line, column⟩ : Cursor).atMarkLine y = false := by
  have htake : ((x :: z :: rest).take 3 == [y, y, y]) = false := beq_false_of_ne fun hxy =>
    h (List.cons.inj (List.cons.inj hxy).2).1
  rw [atMarkLine]
  dsimp only
  rw [htake, Bool.and_false, Bool.false_and]

end Cursor

namespace Scan

/-! ## Blocks -/

/-- A token that opens a block in a column, unless one is open there: the tokens put in, and the
open blocks behind it. -/
inductive Opens (t : Token) (column : Nat) : List Nat → List Token → List Nat → Prop
  | stays {indents : List Nat} : Opens t column (column :: indents) [] (column :: indents)
  | opens {indents : List Nat} : (∀ n ∈ indents.head?, n < column) →
      Opens t column indents [t] (column :: indents)

theorem Opens.head? {t : Token} {column : Nat} {indents indents' : List Nat} {lead : List Token}
    (h : Opens t column indents lead indents') : indents'.head? = some column := by
  cases h <;> rfl

theorem Opens.le {t : Token} {column : Nat} {indents indents' : List Nat} {lead : List Token}
    (h : Opens t column indents lead indents') : ∀ n ∈ indents.head?, n ≤ column := by
  cases h with
  | stays =>
    intro n hn
    rw [← Option.some.inj hn]
  | opens h => exact fun n hn => Nat.le_of_lt (h n hn)

variable {c : Cursor} {tokens more lead : List Token} {indents indents' : List Nat}
  {keyAllowed : Bool} {key : Option PendingKey} {settled : Nat} {t : Token}

theorem insertIdx_length (tokens more : List Token) (t : Token) :
    (tokens ++ more).insertIdx tokens.length t = tokens ++ t :: more := by
  induction tokens with
  | nil => exact List.insertIdx_zero
  | cons a tokens ih =>
    rw [List.cons_append, List.length_cons, List.insertIdx_succ_cons, ih, List.cons_append]

theorem insert_outside :
    (outside c (tokens ++ more) indents keyAllowed key settled).insert tokens.length t =
      outside c (tokens ++ t :: more) indents keyAllowed key settled := by
  rw [insert, outside]
  dsimp only
  rw [List.insertIdxIfInBounds_toArray, insertIdx_length]
  rfl

theorem openBlock_outside {column : Nat} (h : Opens t column indents lead indents') :
    (outside c (tokens ++ more) indents keyAllowed key settled).openBlock column tokens.length t =
      outside c (tokens ++ lead ++ more) indents' keyAllowed key settled := by
  rw [openBlock]
  cases h with
  | stays =>
    rw [List.append_nil]
    exact if_pos (by simp [outside, inFlow, isDeeper, indent?])
  | opens h =>
    have hdeeper : (outside c (tokens ++ more) indents keyAllowed key settled).isDeeper column
        = true := by
      rw [isDeeper, indent?, outside]
      dsimp only
      cases hhead : indents.head? with
      | none => rfl
      | some n => exact decide_eq_true (h n hhead)
    have hflow : (outside c (tokens ++ more) indents keyAllowed key settled).inFlow = false := rfl
    rw [hdeeper, hflow, Bool.not_true, Bool.or_false, if_neg Bool.false_ne_true, insert_outside,
      List.append_assoc, List.singleton_append]
    rfl

theorem push_outside : (outside c tokens indents keyAllowed key settled).push t =
    outside c (tokens ++ [t]) indents keyAllowed key settled := by
  rw [push, outside]
  dsimp only
  rw [List.push_toArray]
  rfl

theorem blockMark?_outside (h : Opens t c.column indents lead indents') :
    (outside c tokens indents true key settled).blockMark? t =
      some (outside c (tokens ++ lead) indents' true key settled) := by
  have hopen := @openBlock_outside c tokens [] lead indents indents' true key settled t c.column h
  rw [List.append_nil, List.append_nil] at hopen
  rw [← hopen]
  rfl

/-! ## Marks -/

theorem blockEntry?_outside (h : Opens .blockListStart c.column indents lead indents') :
    blockEntry? (outside c tokens indents true none settled) =
      some (outside (c.skip 1) (tokens ++ lead ++ [.blockEntry]) indents' true none settled) := by
  rw [ blockEntry?, blockMark?_outside h, Option.bind_eq_bind, Option.bind_some]
  exact congrArg some push_outside

theorem key?_outside (h : Opens .blockMapStart c.column indents lead indents') :
    (outside c tokens indents true none settled).key? =
      some (outside (c.skip 1) (tokens ++ lead ++ [.key]) indents' true none settled) := by
  rw [key?, blockMark?_outside h, Option.bind_eq_bind, Option.bind_some]
  exact congrArg some push_outside

/-- The value behind a key with a mark. -/
theorem value?_outside :
    (outside c tokens (c.column :: indents) true none settled).value? =
      some (outside (c.skip 1) (tokens ++ [.value]) (c.column :: indents) true none settled) := by
  have hmark := @blockMark?_outside c tokens [] (c.column :: indents) (c.column :: indents) none
    settled .blockMapStart .stays
  rw [List.append_nil] at hmark
  rw [value?]
  change (do
    let s ← (outside c tokens (c.column :: indents) true none settled).blockMark? .blockMapStart
    some ((s.allowKey (!s.inFlow)).mark 1 .value)) = _
  rw [hmark, Option.bind_eq_bind, Option.bind_some]
  exact congrArg some push_outside

/-- The value behind a key without one. -/
theorem value?_pending {k : PendingKey} (hposition : k.position = tokens.length)
    (h : Opens .blockMapStart k.column indents lead indents') :
    (outside c (tokens ++ [t]) indents keyAllowed (some k) settled).value? =
      some (outside (c.skip 1) (tokens ++ lead ++ [.key, t] ++ [.value]) indents' false none
        settled) := by
  rw [value?]
  change some ((((({ (outside c (tokens ++ [t]) indents keyAllowed (some k) settled).insert
    k.position .key with keys := [none] } : Scan).openBlock k.column k.position
      .blockMapStart).allowKey false).mark 1 .value)) = _
  rw [hposition, insert_outside]
  change some ((((outside c (tokens ++ [.key, t]) indents keyAllowed none settled).openBlock
    k.column tokens.length .blockMapStart).allowKey false).mark 1 .value) = _
  rw [openBlock_outside h]
  exact congrArg some push_outside

/-! ## Scalars -/

/-- The place of a token that may turn out to be a key. -/
def pending (c : Cursor) (tokens : List Token) (indents : List Nat) : PendingKey where
  position := tokens.length
  line := c.line
  index := c.index
  column := c.column
  required := indents.head? == some c.column

/-- The place of a token, if a key is allowed there. -/
def noted (keyAllowed : Bool) (c : Cursor) (tokens : List Token) (indents : List Nat) :
    Option PendingKey := if keyAllowed then some (pending c tokens indents) else none

theorem noteKey?_outside : (outside c tokens indents keyAllowed none settled).noteKey? =
    some (outside c tokens indents keyAllowed (noted keyAllowed c tokens indents) settled) := by
  cases keyAllowed <;> rfl

theorem keyToken?_outside {read : Cursor → Option (Token × Cursor)} {behind : Cursor}
    (h : read c = some (t, behind)) :
    (outside c tokens indents keyAllowed none settled).keyToken? read =
      some (outside behind (tokens ++ [t]) indents false (noted keyAllowed c tokens indents)
        settled) := by
  have hread : read (outside c tokens indents keyAllowed (noted keyAllowed c tokens indents)
      settled).cursor = some (t, behind) := h
  rw [keyToken?, noteKey?_outside, Option.bind_eq_bind, Option.bind_some, hread,
    Option.bind_eq_bind, Option.bind_some]
  exact congrArg some push_outside

/-- The least column of the lines of a plain scalar. -/
def leastColumn (indents : List Nat) : Nat :=
  match indents.head? with
  | some n => n + 1
  | none => 0

theorem plainScalar?_outside {p : PlainScalar}
    (h : c.plainScalar? false (leastColumn indents) = some p) :
    (outside c tokens indents keyAllowed none settled).plainScalar? =
      some (outside p.behind (tokens ++ [.scalar p.text .plain]) indents p.broken
        (noted keyAllowed c tokens indents) settled) := by
  rw [plainScalar?, noteKey?_outside, Option.bind_eq_bind, Option.bind_some]
  change (do
    let p ← c.plainScalar? false (leastColumn indents)
    some ((((outside c tokens indents keyAllowed (noted keyAllowed c tokens indents) settled).allowKey
      p.broken).moveTo p.behind).push (.scalar p.text .plain))) = _
  rw [h, Option.bind_eq_bind, Option.bind_some]
  exact congrArg some push_outside

theorem blockScalar?_outside {text : List Char} {behind : Cursor}
    (h : c.blockScalar? true indents.head? = some (text, behind)) :
    (outside c tokens indents keyAllowed none settled).blockScalar? true =
      some (outside behind (tokens ++ [.scalar text .block]) indents true none settled) := by
  let s := outside c tokens indents keyAllowed none settled
  have hdrop : s.dropKey? = some s := rfl
  have hread : s.cursor.blockScalar? true s.indent? = some (text, behind) := h
  rw [blockScalar?, hdrop, Option.bind_eq_bind, Option.bind_some, hread, Option.bind_eq_bind,
    Option.bind_some]
  exact congrArg some push_outside

/-! ## Which token it is -/

section

variable {rest : List Char} {index line column : Nat}

theorem tokenAt?_single (rest : List Char) :
    (outside ⟨'\'' :: rest, index, line, column⟩ tokens indents keyAllowed key settled).tokenAt?
        '\'' =
      (outside ⟨'\'' :: rest, index, line, column⟩ tokens indents keyAllowed key settled).keyToken?
        fun c => (c.quotedScalar? .single).map fun q => (.scalar q.1 .quoted, q.2) := by
  have hmark (y : Char) (h : '\'' ≠ y) :
      (⟨'\'' :: rest, index, line, column⟩ : Cursor).atMarkLine y = false :=
    Cursor.atMarkLine_of_head h
  unfold tokenAt?
  simp [outside, hmark, inFlow]

theorem tokenAt?_double (rest : List Char) :
    (outside ⟨'"' :: rest, index, line, column⟩ tokens indents keyAllowed key settled).tokenAt? '"' =
      (outside ⟨'"' :: rest, index, line, column⟩ tokens indents keyAllowed key settled).keyToken?
        fun c => (c.quotedScalar? .double).map fun q => (.scalar q.1 .quoted, q.2) := by
  have hmark (y : Char) (h : '"' ≠ y) :
      (⟨'"' :: rest, index, line, column⟩ : Cursor).atMarkLine y = false :=
    Cursor.atMarkLine_of_head h
  unfold tokenAt?
  simp [outside, hmark, inFlow]

theorem tokenAt?_literal (rest : List Char) :
    (outside ⟨'|' :: rest, index, line, column⟩ tokens indents keyAllowed key settled).tokenAt? '|' =
      (outside ⟨'|' :: rest, index, line, column⟩ tokens indents keyAllowed key settled).blockScalar?
        true := by
  have hmark (y : Char) (h : '|' ≠ y) :
      (⟨'|' :: rest, index, line, column⟩ : Cursor).atMarkLine y = false :=
    Cursor.atMarkLine_of_head h
  unfold tokenAt?
  simp [outside, hmark, inFlow]

theorem tokenAt?_entry (rest : List Char) :
    (outside ⟨'-' :: ' ' :: rest, index, line, column⟩ tokens indents keyAllowed key
        settled).tokenAt? '-' =
      blockEntry? (outside ⟨'-' :: ' ' :: rest, index, line, column⟩ tokens indents keyAllowed key
        settled) := by
  have hdash : (⟨'-' :: ' ' :: rest, index, line, column⟩ : Cursor).atMarkLine '-' = false :=
    Cursor.atMarkLine_of_second (by decide)
  have hdot : (⟨'-' :: ' ' :: rest, index, line, column⟩ : Cursor).atMarkLine '.' = false :=
    Cursor.atMarkLine_of_head (by decide)
  have hgap : (⟨'-' :: ' ' :: rest, index, line, column⟩ : Cursor).gapAt 1 = true := rfl
  unfold tokenAt?
  simp [outside, hdash, hdot, hgap]

theorem tokenAt?_key (rest : List Char) :
    (outside ⟨'?' :: ' ' :: rest, index, line, column⟩ tokens indents keyAllowed key
        settled).tokenAt? '?' =
      (outside ⟨'?' :: ' ' :: rest, index, line, column⟩ tokens indents keyAllowed key
        settled).key? := by
  have hmark (y : Char) (h : '?' ≠ y) :
      (⟨'?' :: ' ' :: rest, index, line, column⟩ : Cursor).atMarkLine y = false :=
    Cursor.atMarkLine_of_head h
  have hgap : (⟨'?' :: ' ' :: rest, index, line, column⟩ : Cursor).gapAt 1 = true := rfl
  unfold tokenAt?
  simp [outside, hmark, hgap]

theorem tokenAt?_value (h : startsWithGap rest = true) :
    (outside ⟨':' :: rest, index, line, column⟩ tokens indents keyAllowed key settled).tokenAt? ':' =
      (outside ⟨':' :: rest, index, line, column⟩ tokens indents keyAllowed key settled).value? := by
  have hmark (y : Char) (h : ':' ≠ y) :
      (⟨':' :: rest, index, line, column⟩ : Cursor).atMarkLine y = false :=
    Cursor.atMarkLine_of_head h
  have hgap : (⟨':' :: rest, index, line, column⟩ : Cursor).gapAt 1 = true := h
  unfold tokenAt?
  simp [outside, hmark, hgap]

end

end Scan

end LoginGate.Yaml
