import LoginGate.Lua.Literal
import LoginGate.Lua.Token
import LoginGate.Text.Bytes

/-!
# Strings, written and read

A string literal denotes the text that it was written for, and ends at its own closing quote,
whatever follows:

    stringFrom? '"' .plain (s.flatMap escapeChar ++ '"' :: rest) = some (utf8 s, rest)
                                                                        (stringFrom?_escaped)
    string? ((quote s).toList ++ rest) = some (textBytes s, rest)             (string?_quote)
-/

namespace LoginGate.Lua

open LoginGate.Text StringPlace

/-! ## Bytes by their numbers -/

/-- The digit of a value below ten. -/
def digitChar (n : Nat) : Char := Char.ofNat (48 + n)

theorem isDigit_digitChar {n : Nat} (h : n < 10) : isDigit (digitChar n) = true := by
  revert n
  decide

theorem toNat_digitChar {n : Nat} (h : n < 10) : (digitChar n).toNat - 48 = n := by
  revert n
  decide

/-- A byte is written with three digits. -/
theorem escapeByte_eq (b : UInt8) : escapeByte b =
    ['\\', digitChar (b.toNat / 100), digitChar (b.toNat / 10 % 10), digitChar (b.toNat % 10)] := by
  have : ∀ n < 256, '\\' :: padZeros 3 (decimal n) =
      ['\\', digitChar (n / 100), digitChar (n / 10 % 10), digitChar (n % 10)] := by
    decide +kernel
  exact this b.toNat b.toNat_lt

/-! ## Inside a string -/

/-- What a reader makes of a text with some bytes read before it. -/
def withBytes (bytes : List UInt8) (read : Option (List UInt8 × List Char)) :
    Option (List UInt8 × List Char) :=
  read.map fun (more, rest) => (bytes ++ more, rest)

theorem withBytes_nil (read : Option (List UInt8 × List Char)) : withBytes [] read = read := by
  cases read <;> rfl

theorem withBytes_append (one other : List UInt8) (read : Option (List UInt8 × List Char)) :
    withBytes one (withBytes other read) = withBytes (one ++ other) read := by
  cases read with
  | none => rfl
  | some p => simp only [withBytes, Option.map_some, List.append_assoc]

theorem stringFrom?_more {delimiter : Char} {place next : StringPlace} {c : Char}
    {bytes : List UInt8} (h : place.step delimiter c = some (.more bytes next)) (rest : List Char) :
    stringFrom? delimiter place (c :: rest) =
      withBytes bytes (stringFrom? delimiter next rest) := by
  rw [stringFrom?, h]
  rfl

theorem stringFrom?_plain {c : Char} (h1 : c ≠ '"') (h2 : c ≠ '\\') (h3 : isLineEnd c = false)
    (rest : List Char) : stringFrom? '"' .plain (c :: rest) =
      withBytes (String.utf8EncodeChar c) (stringFrom? '"' .plain rest) := by
  apply stringFrom?_more
  rw [step, plainStep, if_neg h1, if_neg h2, if_neg (by rw [h3]; exact Bool.false_ne_true)]

theorem stringFrom?_escape {c : Char} {bytes : List UInt8}
    (h : StringPlace.escape.step '"' c = some (.more bytes plain)) (rest : List Char) :
    stringFrom? '"' .plain ('\\' :: c :: rest) = withBytes bytes (stringFrom? '"' .plain rest) := by
  have hb : StringPlace.plain.step '"' '\\' = some (.more [] escape) := by decide
  rw [stringFrom?_more hb, withBytes_nil, stringFrom?_more h]

theorem stringFrom?_escapeByte (b : UInt8) (rest : List Char) :
    stringFrom? '"' .plain (escapeByte b ++ rest) =
      withBytes [b] (stringFrom? '"' .plain rest) := by
  have hlt := b.toNat_lt
  have h1 : b.toNat / 100 < 10 := by omega
  have h2 : b.toNat / 10 % 10 < 10 := Nat.mod_lt _ (by decide)
  have h3 : b.toNat % 10 < 10 := Nat.mod_lt _ (by decide)
  have hvalue : ((b.toNat / 100) * 10 + b.toNat / 10 % 10) * 10 + b.toNat % 10 = b.toNat := by
    omega
  have hb : StringPlace.plain.step '"' '\\' = some (.more [] escape) := by decide
  have hs1 : StringPlace.escape.step '"' (digitChar (b.toNat / 100)) =
      some (.more [] (code 1 (b.toNat / 100))) := by
    rw [step, if_pos (isDigit_digitChar h1), toNat_digitChar h1]
  have hs2 : (code 1 (b.toNat / 100)).step '"' (digitChar (b.toNat / 10 % 10)) =
      some (.more [] (code 2 ((b.toNat / 100) * 10 + b.toNat / 10 % 10))) := by
    rw [step, if_pos (isDigit_digitChar h2), toNat_digitChar h2]
    rfl
  have hs3 : (code 2 ((b.toNat / 100) * 10 + b.toNat / 10 % 10)).step '"'
      (digitChar (b.toNat % 10)) = some (.more [b] plain) := by
    rw [step, if_pos (isDigit_digitChar h3), toNat_digitChar h3]
    simp only [hvalue, Nat.lt_irrefl, if_false, hlt, if_true, UInt8.ofNat_toNat]
  rw [escapeByte_eq, List.cons_append, List.cons_append, List.cons_append, List.cons_append,
    List.nil_append, stringFrom?_more hb, stringFrom?_more hs1, stringFrom?_more hs2,
    stringFrom?_more hs3]
  simp only [withBytes_nil]

theorem stringFrom?_escapeBytes (bytes : List UInt8) (rest : List Char) :
    stringFrom? '"' .plain (bytes.flatMap escapeByte ++ rest) =
      withBytes bytes (stringFrom? '"' .plain rest) := by
  induction bytes with
  | nil => rw [withBytes_nil, List.flatMap_nil, List.nil_append]
  | cons b bytes ih =>
    rw [List.flatMap_cons, List.append_assoc, stringFrom?_escapeByte, ih, withBytes_append]
    rfl

/-- An escaped character denotes its own bytes. -/
theorem stringFrom?_escapeChar (c : Char) (rest : List Char) :
    stringFrom? '"' .plain (escapeChar c ++ rest) =
      withBytes (String.utf8EncodeChar c) (stringFrom? '"' .plain rest) := by
  unfold escapeChar
  by_cases h1 : c = '\\'
  · subst h1
    exact stringFrom?_escape (by decide) rest
  by_cases h2 : c = '"'
  · subst h2
    exact stringFrom?_escape (by decide) rest
  by_cases h3 : c = '\n'
  · subst h3
    exact stringFrom?_escape (by decide) rest
  by_cases h4 : c = '\r'
  · subst h4
    exact stringFrom?_escape (by decide) rest
  by_cases h5 : c = '\t'
  · subst h5
    exact stringFrom?_escape (by decide) rest
  rw [if_neg h1, if_neg h2, if_neg h3, if_neg h4, if_neg h5]
  split
  · exact stringFrom?_escapeBytes _ rest
  · refine stringFrom?_plain h2 h1 ?_ rest
    rw [isLineEnd, decide_eq_false h3, decide_eq_false h4]
    rfl

/-- **What a literal denotes.**  Whatever follows, the literal ends at its own closing quote. -/
theorem stringFrom?_escaped (s rest : List Char) :
    stringFrom? '"' .plain (s.flatMap escapeChar ++ '"' :: rest) = some (utf8 s, rest) := by
  induction s with
  | nil => rfl
  | cons c s ih =>
    rw [List.flatMap_cons, List.append_assoc, stringFrom?_escapeChar, ih]
    rfl

/-! ## In a program -/

/-- A scanner reads a string as the string's own reader does. -/
theorem run_of_stringFrom? {delimiter : Char} {place : StringPlace} {text rest : List Char}
    {bytes : List UInt8} (h : stringFrom? delimiter place text = some (bytes, rest))
    (before : List Token) (read : List UInt8) :
    Scanner.run ⟨before, .text delimiter read place⟩ text =
      Scanner.run ⟨before ++ [.text (read ++ bytes)], .between⟩ rest := by
  induction text generalizing place bytes read with
  | nil => cases h
  | cons c text ih =>
    rw [stringFrom?] at h
    cases hs : place.step delimiter c with
    | none =>
      rw [hs] at h
      cases h
    | some action =>
      rw [hs] at h
      cases action with
      | closed more =>
        obtain ⟨rfl, rfl⟩ := Prod.mk.inj (Option.some.inj h)
        apply Scanner.run_cons
        simp only [Scanner.step, hs]
      | more more next =>
        obtain ⟨⟨more', rest'⟩, hr, he⟩ := Option.map_eq_some_iff.1 h
        obtain ⟨rfl, rfl⟩ := Prod.mk.inj he
        rw [← List.append_assoc, ← ih hr]
        apply Scanner.run_cons
        simp only [Scanner.step, hs, Scanner.enter]

/-- A literal is one token, the text that it was written for. -/
theorem run_quoteChars (before : List Token) (s rest : List Char) :
    Scanner.run ⟨before, .between⟩ (quoteChars s ++ rest) =
      Scanner.run ⟨before ++ [.text (utf8 s)], .between⟩ rest := by
  have h := run_of_stringFrom? (stringFrom?_escaped s rest) before []
  rw [List.nil_append] at h
  rw [← h, quoteChars, List.append_assoc]
  rfl

/-! ## The literal by itself -/

/-- Not a control character: those are below U+0020, and from U+007F to U+009F. -/
def NotControl (c : Char) : Prop := 0x20 ≤ c.toNat ∧ (c.toNat < 0x7F ∨ 0xA0 ≤ c.toNat)

instance (c : Char) : Decidable (NotControl c) :=
  inferInstanceAs (Decidable (_ ∧ _))

theorem notControl_of_not_isControl {c : Char} (h : isControl c = false) : NotControl c := by
  rw [isControl, Bool.or_eq_false_iff, Bool.and_eq_false_iff, decide_eq_false_iff_not,
    decide_eq_false_iff_not, decide_eq_false_iff_not] at h
  exact ⟨by omega, by omega⟩

theorem notControl_digitChar {n : Nat} (h : n < 10) : NotControl (digitChar n) := by
  revert n
  decide

theorem notControl_of_mem_escapeByte {b : UInt8} {c : Char} (h : c ∈ escapeByte b) :
    NotControl c := by
  have hlt := b.toNat_lt
  rw [escapeByte_eq] at h
  simp only [List.mem_cons, List.not_mem_nil, or_false] at h
  rcases h with rfl | rfl | rfl | rfl
  · decide
  · exact notControl_digitChar (by omega)
  · exact notControl_digitChar (Nat.mod_lt _ (by decide))
  · exact notControl_digitChar (Nat.mod_lt _ (by decide))

/-- No control character is written for a character, whichever it is. -/
theorem notControl_of_mem_escapeChar {c d : Char} (h : d ∈ escapeChar c) : NotControl d := by
  have hpair : ∀ x, NotControl x → d ∈ ['\\', x] → NotControl d := by
    intro x hx hd
    simp only [List.mem_cons, List.not_mem_nil, or_false] at hd
    rcases hd with rfl | rfl
    · decide
    · exact hx
  unfold escapeChar at h
  split at h
  · exact hpair _ (by decide) h
  split at h
  · exact hpair _ (by decide) h
  split at h
  · exact hpair _ (by decide) h
  split at h
  · exact hpair _ (by decide) h
  split at h
  · exact hpair _ (by decide) h
  split at h
  · obtain ⟨b, -, hb⟩ := List.mem_flatMap.1 h
    exact notControl_of_mem_escapeByte hb
  · next hc =>
    rw [List.mem_singleton.1 h]
    exact notControl_of_not_isControl (Bool.eq_false_iff.2 hc)

theorem notControl_of_mem_quoteChars {s : List Char} {c : Char} (h : c ∈ quoteChars s) :
    NotControl c := by
  rw [quoteChars, List.cons_append, List.mem_cons, List.mem_append, List.mem_singleton] at h
  rcases h with rfl | h | rfl
  · decide
  · obtain ⟨d, -, hd⟩ := List.mem_flatMap.1 h
    exact notControl_of_mem_escapeChar hd
  · decide

/-- A literal is read up to its end, whatever follows. -/
theorem string?_quoteChars (s rest : List Char) :
    string? (quoteChars s ++ rest) = some (utf8 s, rest) := by
  rw [← stringFrom?_escaped s rest, quoteChars, List.append_assoc]
  rfl

theorem quoteChars_injective {s t : List Char} (h : quoteChars s = quoteChars t) : s = t := by
  have hs := string?_quoteChars s []
  rw [h, string?_quoteChars] at hs
  exact utf8_injective (Prod.mk.inj (Option.some.inj hs)).1.symm

/-- **Quoting and reading are inverse.**  Whatever follows a literal, a reader of strings takes the
whole literal and no more, for the bytes of the text that it was written for, and so does a reader
of programs, which goes on between two tokens.  The literal has no control character, and it is
written for no other text. -/
theorem string?_quote (s : String) :
    (∀ rest, string? ((quote s).toList ++ rest) = some (textBytes s, rest)) ∧
    (∀ before rest, Scanner.run ⟨before, .between⟩ ((quote s).toList ++ rest) =
      Scanner.run ⟨before ++ [.text (textBytes s)], .between⟩ rest) ∧
    (∀ c ∈ (quote s).toList, NotControl c) ∧
    ∀ t, quote t = quote s ↔ t = s := by
  have hlist : (quote s).toList = quoteChars s.toList := by rw [quote, String.toList_ofList]
  rw [hlist]
  refine ⟨string?_quoteChars s.toList, fun before rest => run_quoteChars before s.toList rest,
    fun c hc => notControl_of_mem_quoteChars hc, fun t => ⟨fun h => ?_, congrArg quote⟩⟩
  exact String.toList_injective (quoteChars_injective (String.ofList_injective h))

end LoginGate.Lua
