import LoginGate.Lua.Value
import LoginGate.Proofs.Lua.Expressions

/-!
# Values of written expressions

`Makes tokens v` says that a reader takes exactly these tokens for the value `v`, whatever follows
them.  A table constructor makes the table of what its fields make:

    (∀ a ∈ items, MakesEntry (tokens a) none (value a)) →
      Makes (tableTokens (items.map tokens)) (.table (items.map value) [])          (makes_list)
    (∀ a ∈ items, MakesEntry (tokens a) (some (key a)) (value a)) →
      Makes (tableTokens (items.map tokens))
        (.table [] (items.map fun a => (key a, value a)))                         (makes_record)

A text that is read as tokens which make a value writes that value (`ofText?_of_reads`).
-/

namespace LoginGate.Lua

open LoginGate.Text

/-! ## From a text to its tokens -/

/-- No symbol goes on with a closing brace. -/
theorem symbolStep_brace (s : Scanner) (symbol : List Char) :
    s.symbolStep symbol '\x7d' = some (s.emit (.symbol symbol) '\x7d') := by
  have hlong : longSymbols.contains (symbol ++ ['\x7d']) = false := by
    rw [Bool.eq_false_iff]
    intro hm
    have hlast : ∀ l ∈ longSymbols, l.getLast? ≠ some '\x7d' := by decide
    exact hlast _ (List.contains_iff_mem.1 hm) (by simp)
  rw [Scanner.symbolStep, if_neg (by simp), if_neg (by simp), if_neg, hlong]
  · rfl
  · rintro ⟨-, h⟩
    exact absurd h (by decide)

/-- A scanner that a closing brace brings to the start of that brace was not inside of a string, so
the text may as well end there. -/
theorem finish_of_step {s : Scanner} {tokens : List Token}
    (h : s.step '\x7d' = some ⟨tokens, .symbol ['\x7d']⟩) : s.finish = some tokens := by
  obtain ⟨before, mode⟩ := s
  cases mode with
  | between =>
    obtain ⟨rfl, -⟩ := Scanner.mk.inj (Option.some.inj h)
    exact congrArg some (List.append_nil before)
  | word name =>
    have hw : isWordChar '\x7d' = false := by decide
    simp only [Scanner.step, hw, Bool.false_eq_true, if_false, Scanner.emit] at h
    obtain ⟨rfl, -⟩ := Scanner.mk.inj (Option.some.inj h)
    rfl
  | number numeral place =>
    have hn : place.step '\x7d' = none := by cases place <;> decide
    simp only [Scanner.step, hn, Scanner.emit] at h
    obtain ⟨rfl, -⟩ := Scanner.mk.inj (Option.some.inj h)
    rfl
  | symbol symbol =>
    simp only [Scanner.step, symbolStep_brace, Scanner.emit] at h
    obtain ⟨rfl, -⟩ := Scanner.mk.inj (Option.some.inj h)
    rfl
  | text delimiter bytes place =>
    simp only [Scanner.step, Scanner.enter] at h
    split at h <;> cases h
  | comment fresh =>
    simp only [Scanner.step, Scanner.enter] at h
    split at h
    · cases h
    · split at h <;> cases h

/-- A text that is read up to a closing brace has the same tokens when it ends there. -/
theorem tokens?_of_reads {text : List Char} {tokens : List Token} (h : Reads text tokens '\x7d') :
    tokens? text = some tokens := by
  have hrun : Scanner.run {} (text ++ ['\x7d']) = some ⟨tokens, .symbol ['\x7d']⟩ := h [] []
  rw [Scanner.run_append] at hrun
  obtain ⟨s, hs, hstep⟩ := Option.bind_eq_some_iff.1 hrun
  simp only [Scanner.run, List.foldlM_cons, List.foldlM_nil, bind_pure] at hstep
  rw [tokens?, hs]
  exact finish_of_step hstep

/-! ## From tokens to their value -/

/-- Does a reader take exactly these tokens for a value, whatever follows them? -/
def Makes (tokens : List Token) (v : Value) : Prop :=
  ∀ fuel rest, tokens.length < fuel → Value.read? fuel (tokens ++ rest) = some (v, rest)

theorem makes_text (bytes : List UInt8) : Makes [.text bytes] (.text bytes) := by
  intro fuel rest h
  cases fuel with
  | zero => exact absurd h (Nat.not_lt_zero _)
  | succ fuel => rfl

theorem makes_true : Makes [.word "true".toList] (.truth true) := by
  intro fuel rest h
  cases fuel with
  | zero => exact absurd h (Nat.not_lt_zero _)
  | succ fuel => rfl

theorem ofTokens?_of_makes {tokens : List Token} {v : Value} (h : Makes tokens v) :
    Value.ofTokens? tokens = some v := by
  have hread := h (tokens.length + 1) [] (Nat.lt_succ_self _)
  rw [List.append_nil] at hread
  rw [Value.ofTokens?, hread]
  rfl

/-- **The value that a text writes.** -/
theorem ofText?_of_reads {s : String} {tokens : List Token} {v : Value}
    (hr : Reads s.toList tokens '\x7d') (hm : Makes tokens v) : Value.ofText? s = some v := by
  rw [Value.ofText?, tokens?_of_reads hr]
  exact ofTokens?_of_makes hm

/-! ## Entries of tables -/

/-- Does a reader take exactly these tokens for an entry with this key, if it has one, and this
value? -/
structure MakesEntry (entry : List Token) (key : Option (List UInt8)) (v : Value) : Prop where
  opens : ∃ t rest, entry = t :: rest ∧ t ≠ .symbol ['\x7d']
  reads : ∃ e, e.length ≤ entry.length ∧ Makes e v ∧
    ∀ rest, entryKey? (entry ++ rest) = some (key, e ++ rest)

theorem makesEntry_table {fields : List (List Token)} {v : Value}
    (h : Makes (tableTokens fields) v) : MakesEntry (tableTokens fields) none v :=
  ⟨⟨_, _, rfl, by decide⟩, _, Nat.le_refl _, h, fun _ => rfl⟩

theorem makesEntry_keyed (key : List UInt8) {e : List Token} {v : Value} (h : Makes e v) :
    MakesEntry ([.symbol ['['], .text key, .symbol [']'], .symbol ['=']] ++ e) (some key) v :=
  ⟨⟨_, _, rfl, by decide⟩, e, (List.suffix_append _ e).length_le, h, fun _ => rfl⟩

theorem makesEntry_named {name : List Char} {key : List UInt8} (hn : nameKey? name = some key)
    {e : List Token} {v : Value} (h : Makes e v) :
    MakesEntry ([.word name, .symbol ['=']] ++ e) (some key) v := by
  refine ⟨⟨_, _, rfl, by simp⟩, e, (List.suffix_append _ e).length_le, h, fun rest => ?_⟩
  show (nameKey? name).map _ = _
  rw [hn]
  rfl

section

variable {entry : List Token} {key : Option (List UInt8)} {v : Value} {fuel : Nat}

/-- What starts with an entry does not start with the end of the table. -/
theorem MakesEntry.append_ne (h : MakesEntry entry key v) (following rest : List Token) :
    entry ++ following ≠ .symbol ['\x7d'] :: rest := by
  obtain ⟨t, entry, rfl, ht⟩ := h.opens
  intro he
  exact ht (List.cons.inj he).1

theorem MakesEntry.entries?_last (h : MakesEntry entry key v) (hf : entry.length < fuel)
    (rest : List Token) :
    Value.entries? (fuel + 1) (entry ++ .symbol ['\x7d'] :: rest) =
      some ((Value.table [] []).withEntry key v, rest) := by
  obtain ⟨e, hlen, hm, hkey⟩ := h.reads
  have hread := hm fuel (.symbol ['\x7d'] :: rest) (Nat.lt_of_le_of_lt hlen hf)
  rw [Value.entries?, hkey]
  · simp only [Option.bind_eq_bind, Option.bind_some, hread]
  · exact h.append_ne _

theorem MakesEntry.entries?_comma (h : MakesEntry entry key v) (hf : entry.length < fuel)
    {others : Value} {following rest : List Token}
    (ho : Value.entries? fuel following = some (others, rest)) :
    Value.entries? (fuel + 1) (entry ++ .symbol [','] :: following) =
      some (others.withEntry key v, rest) := by
  obtain ⟨e, hlen, hm, hkey⟩ := h.reads
  have hread := hm fuel (.symbol [','] :: following) (Nat.lt_of_le_of_lt hlen hf)
  rw [Value.entries?, hkey]
  · simp only [Option.bind_eq_bind, Option.bind_some, hread]
    show (if ',' = ',' ∨ ',' = ';' then (Value.entries? fuel following).bind _ else none) = _
    rw [if_pos (Or.inl rfl), ho]
    rfl
  · exact h.append_ne _

end

/-! ## Tables -/

section

variable {α : Type} {items : List α} {tokens : α → List Token} {value : α → Value}

def tableOf (entries : List (Option (List UInt8) × Value)) : Value :=
  entries.foldr (fun entry others => others.withEntry entry.1 entry.2) (.table [] [])

/-- Entries are read one after the other up to the closing brace. -/
theorem entries?_eq {key : α → Option (List UInt8)}
    (h : ∀ a ∈ items, MakesEntry (tokens a) (key a) (value a)) {fuel : Nat} (rest : List Token)
    (hf : ([Token.symbol [',']].intercalate (items.map tokens)).length + 1 < fuel) :
    Value.entries? fuel
        ([.symbol [',']].intercalate (items.map tokens) ++ .symbol ['\x7d'] :: rest) =
      some (tableOf (items.map fun a => (key a, value a)), rest) := by
  induction items generalizing fuel with
  | nil =>
    cases fuel with
    | zero => exact absurd hf (Nat.not_lt_zero _)
    | succ fuel => rfl
  | cons a items ih =>
    have ha := h a List.mem_cons_self
    obtain ⟨fuel, rfl⟩ : ∃ n, fuel = n + 1 := ⟨fuel - 1, by omega⟩
    cases items with
    | nil =>
      simp only [List.map_cons, List.map_nil, List.intercalate_singleton] at hf ⊢
      exact ha.entries?_last (by omega) rest
    | cons b items =>
      have ih := @ih (fun c hc => h c (List.mem_cons_of_mem a hc)) fuel
      simp only [List.map_cons, List.intercalate_cons_cons, List.append_assoc, List.length_append,
        List.length_singleton] at hf ih ⊢
      exact ha.entries?_comma (by omega) (ih (by omega))

theorem makes_tableOf {key : α → Option (List UInt8)}
    (h : ∀ a ∈ items, MakesEntry (tokens a) (key a) (value a)) :
    Makes (tableTokens (items.map tokens)) (tableOf (items.map fun a => (key a, value a))) := by
  intro fuel rest hf
  have hlength : (tableTokens (items.map tokens)).length =
      ([Token.symbol [',']].intercalate (items.map tokens)).length + 2 := by
    simp [tableTokens]
  obtain ⟨fuel, rfl⟩ : ∃ n, fuel = n + 1 := ⟨fuel - 1, by omega⟩
  rw [tableTokens, List.append_assoc, List.cons_append, Value.read?]
  exact entries?_eq h rest (by omega)

/-- **A list**, whose entries have no keys. -/
theorem makes_list (h : ∀ a ∈ items, MakesEntry (tokens a) none (value a)) :
    Makes (tableTokens (items.map tokens)) (.table (items.map value) []) := by
  have htable : tableOf (items.map fun a => (none, value a)) = .table (items.map value) [] := by
    clear h
    induction items with
    | nil => rfl
    | cons a items ih =>
      rw [List.map_cons, tableOf, List.foldr_cons, ← tableOf, ih]
      rfl
  rw [← htable]
  exact makes_tableOf h

/-- **A record**, whose entries all have keys. -/
theorem makes_record {key : α → List UInt8}
    (h : ∀ a ∈ items, MakesEntry (tokens a) (some (key a)) (value a)) :
    Makes (tableTokens (items.map tokens))
      (.table [] (items.map fun a => (key a, value a))) := by
  have htable : tableOf (items.map fun a => (some (key a), value a)) =
      .table [] (items.map fun a => (key a, value a)) := by
    clear h
    induction items with
    | nil => rfl
    | cons a items ih =>
      rw [List.map_cons, tableOf, List.foldr_cons, ← tableOf, ih]
      rfl
  rw [← htable]
  exact makes_tableOf h

end

end LoginGate.Lua
