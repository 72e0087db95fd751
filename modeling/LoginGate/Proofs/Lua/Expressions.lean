import LoginGate.Access.Rule
import LoginGate.Proofs.Lua.Quoting

/-!
# Expressions, written and read

`Reads text tokens c` says that a scanner between two tokens makes these tokens of the text when `c`
follows.  Strings, symbols, words and table constructors are read as what they were written for:

    Reads (quote s) [.text (textBytes s)] c                                       (reads_quote)
    Reads (table fields) (tableTokens (the tokens of the fields)) c               (reads_table)
    Reads (ruleTableText rules) (tableTokens (rules.map Rule.tokens)) c   (reads_ruleTableText)

All of them are expressions of one small grammar, `IsExpression`.
-/

namespace LoginGate.Lua

open LoginGate.Text

/-- Are these the tokens of a text that stands between two tokens, before the character `c`? -/
def Reads (text : List Char) (tokens : List Token) (c : Char) : Prop :=
  ∀ before rest, Scanner.run ⟨before, .between⟩ (text ++ c :: rest) =
    Scanner.run ⟨before ++ tokens, .between⟩ (c :: rest)

theorem reads_nil (c : Char) : Reads [] [] c := by
  intro before rest
  rw [List.append_nil, List.nil_append]

/-- One text after another; the second one, or else `c`, follows the first. -/
theorem Reads.append {a b : List Char} {s t : List Token} {c : Char}
    (ha : ∀ d, (b ++ [c]).head? = some d → Reads a s d) (hb : Reads b t c) :
    Reads (a ++ b) (s ++ t) c := by
  intro before rest
  have h := hb (before ++ s) rest
  rw [List.append_assoc] at h
  rw [List.append_assoc, ← h]
  cases b with
  | nil => exact ha c rfl before rest
  | cons d b => exact ha d rfl before (b ++ c :: rest)

/-- A blank between tokens is no token. -/
theorem reads_gap {text : List Char} {tokens : List Token} {c : Char} (h : Reads text tokens c) :
    Reads ([' '] ++ text) tokens c := by
  intro before rest
  have hs : (⟨before, .between⟩ : Scanner).step ' ' = some ⟨before, .between⟩ := rfl
  rw [List.append_assoc, List.singleton_append, Scanner.run_cons hs, h]

/-! ## Single tokens -/

theorem reads_quote (s : String) (c : Char) : Reads (quote s).toList [.text (textBytes s)] c := by
  intro before rest
  rw [quote, String.toList_ofList, run_quoteChars]
  rfl

/-- A token of one character ends before a character that does not continue it. -/
theorem reads_symbol {x c : Char} (hx : Mode.start x = .symbol [x])
    (h : ∀ s : Scanner, s.symbolStep [x] c = some (s.emit (.symbol [x]) c)) :
    Reads [x] [.symbol [x]] c := by
  intro before rest
  have h1 : (⟨before, .between⟩ : Scanner).step x = some ⟨before, .symbol [x]⟩ := by
    simp only [Scanner.step, Scanner.enter, hx]
  have h2 : (⟨before, .symbol [x]⟩ : Scanner).step c =
      some ⟨before ++ [.symbol [x]], .start c⟩ := h ⟨before, .symbol [x]⟩
  have h3 : (⟨before ++ [.symbol [x]], .between⟩ : Scanner).step c =
      some ⟨before ++ [.symbol [x]], .start c⟩ := rfl
  rw [List.singleton_append, Scanner.run_cons h1, Scanner.run_cons h2, Scanner.run_cons h3]

/-- The symbols that nothing continues. -/
def isLone (x : Char) : Bool := x = '\x7b' || x = '\x7d' || x = ',' || x = ']'

theorem reads_lone {x : Char} (hx : isLone x = true) (c : Char) :
    Reads [x] [.symbol [x]] c := by
  simp only [isLone, Bool.or_eq_true, decide_eq_true_eq] at hx
  rcases hx with ((rfl | rfl) | rfl) | rfl <;>
    exact reads_symbol (by decide) fun s => by simp [Scanner.symbolStep, longSymbols]

theorem reads_equals {c : Char} (hc : c ≠ '=') : Reads ['='] [.symbol ['=']] c :=
  reads_symbol (by decide) fun s => by simp [Scanner.symbolStep, longSymbols, hc]

theorem reads_equals_append {text : List Char} {tokens : List Token} {c : Char}
    (hne : (text ++ [c]).head? ≠ some '=') (h : Reads text tokens c) :
    Reads (['='] ++ text) ([.symbol ['=']] ++ tokens) c :=
  Reads.append (fun d hd => reads_equals fun he => hne (by rw [hd, he])) h

theorem reads_bracket {c : Char} (h1 : c ≠ '[') (h2 : c ≠ '=') : Reads ['['] [.symbol ['[']] c :=
  reads_symbol (by decide) fun s => by simp [Scanner.symbolStep, longSymbols, h1, h2]

/-- A word ends before a character that does not belong to words. -/
theorem reads_word {x c : Char} {name : List Char} (hx : Mode.start x = .word [x])
    (hname : name.all isWordChar = true) (hc : isWordChar c = false) :
    Reads (x :: name) [.word (x :: name)] c := by
  intro before rest
  have h1 : (⟨before, .between⟩ : Scanner).step x = some ⟨before, .word [x]⟩ := by
    simp only [Scanner.step, Scanner.enter, hx]
  have h2 : ∀ read, Scanner.run ⟨before, .word read⟩ (name ++ c :: rest) =
      Scanner.run ⟨before ++ [.word (read ++ name)], .between⟩ (c :: rest) := by
    induction name with
    | nil =>
      intro read
      have hs : (⟨before, .word read⟩ : Scanner).step c =
          some ⟨before ++ [.word read], .start c⟩ := by
        simp only [Scanner.step, hc, Bool.false_eq_true, if_false, Scanner.emit]
      have hb : (⟨before ++ [.word read], .between⟩ : Scanner).step c =
          some ⟨before ++ [.word read], .start c⟩ := rfl
      rw [List.nil_append, List.append_nil, Scanner.run_cons hs, Scanner.run_cons hb]
    | cons y name ih =>
      intro read
      rw [List.all_cons, Bool.and_eq_true] at hname
      have hs : (⟨before, .word read⟩ : Scanner).step y = some ⟨before, .word (read ++ [y])⟩ := by
        simp only [Scanner.step, hname.1, if_true, Scanner.enter]
      rw [List.cons_append, Scanner.run_cons hs, ih hname.2, List.append_assoc]
      rfl
  rw [List.cons_append, Scanner.run_cons h1, h2]
  rfl

/-! ## Table constructors -/

/-- The tokens of a table constructor with the given fields. -/
def tableTokens (fields : List (List Token)) : List Token :=
  .symbol ['\x7b'] :: [.symbol [',']].intercalate fields ++ [.symbol ['\x7d']]

/-- A table constructor is read field by field. -/
theorem reads_table {α : Type} {items : List α} {text : α → String} {tokens : α → List Token}
    (h : ∀ a ∈ items, ∀ c, c = ',' ∨ c = '\x7d' → Reads (text a).toList (tokens a) c) (c : Char) :
    Reads (table (items.map text)).toList (tableTokens (items.map tokens)) c := by
  have hfields : Reads ([','].intercalate ((items.map text).map String.toList))
      ([.symbol [',']].intercalate (items.map tokens)) '\x7d' := by
    induction items with
    | nil => exact reads_nil _
    | cons a items ih =>
      have ih := ih fun b hb => h b (List.mem_cons_of_mem a hb)
      cases items with
      | nil =>
        simp only [List.map_cons, List.map_nil, List.intercalate_singleton]
        exact h a List.mem_cons_self _ (Or.inr rfl)
      | cons b items =>
        simp only [List.map_cons, List.intercalate_cons_cons, List.append_assoc] at ih ⊢
        refine Reads.append (fun d hd => h a List.mem_cons_self d (Or.inl ?_))
          (Reads.append (fun d _ => reads_lone rfl d) ih)
        exact (Option.some.inj hd).symm
  rw [table, String.toList_append, String.toList_append, String.toList_intercalate]
  exact Reads.append (fun d hd => by
    obtain rfl := Option.some.inj hd
    exact Reads.append (fun d _ => reads_lone rfl d) hfields) (reads_lone rfl c)

def stringTableTokens (entries : List (String × String)) : List Token :=
  tableTokens (entries.map fun entry =>
    [.symbol ['['], .text (textBytes entry.1), .symbol [']'], .symbol ['='],
      .text (textBytes entry.2)])

def stringSetTokens (keys : List String) : List Token :=
  tableTokens (keys.map fun key =>
    [.symbol ['['], .text (textBytes key), .symbol [']'], .symbol ['='], .word "true".toList])

theorem quote_head? (s : String) (rest : List Char) :
    ((quote s).toList ++ rest).head? = some '"' := by
  rw [quote, String.toList_ofList]
  rfl

theorem reads_keyed (key : String) {value : String} {tokens : List Token} {c : Char}
    (hne : (value.toList ++ [c]).head? ≠ some '=') (h : Reads value.toList tokens c) :
    Reads ("[" ++ quote key ++ "]=" ++ value).toList
      ([.symbol ['['], .text (textBytes key), .symbol [']'], .symbol ['=']] ++ tokens) c := by
  have hequals : Reads (['='] ++ value.toList) ([.symbol ['=']] ++ tokens) c :=
    reads_equals_append hne h
  have hclosing : Reads ([']'] ++ (['='] ++ value.toList))
      ([.symbol [']']] ++ ([.symbol ['=']] ++ tokens)) c :=
    Reads.append (fun d _ => reads_lone rfl d) hequals
  have hkey : Reads ((quote key).toList ++ ([']'] ++ (['='] ++ value.toList)))
      ([.text (textBytes key)] ++ ([.symbol [']']] ++ ([.symbol ['=']] ++ tokens))) c :=
    Reads.append (fun d _ => reads_quote key d) hclosing
  have hall := Reads.append (a := ['[']) (s := [.symbol ['[']]) (fun d hd => ?_) hkey
  · simpa using hall
  · rw [List.append_assoc, quote_head?] at hd
    obtain rfl := Option.some.inj hd
    exact reads_bracket (by decide) (by decide)

theorem reads_named {x c : Char} {name : List Char} {lead value : String} {tokens : List Token}
    (hlead : lead.toList = x :: name ++ ['=']) (hx : Mode.start x = .word [x])
    (hname : name.all isWordChar = true) (hne : (value.toList ++ [c]).head? ≠ some '=')
    (h : Reads value.toList tokens c) :
    Reads (lead ++ value).toList ([.word (x :: name), .symbol ['=']] ++ tokens) c := by
  have hequals : Reads (['='] ++ value.toList) ([.symbol ['=']] ++ tokens) c :=
    reads_equals_append hne h
  have hall := Reads.append (a := x :: name) (s := [.word (x :: name)]) (fun d hd => ?_) hequals
  · simpa [hlead] using hall
  · obtain rfl := Option.some.inj hd
    exact reads_word hx hname (by decide)

/-! ## What the script is filled with -/

theorem head?_table_append (fields : List String) (rest : List Char) :
    ((table fields).toList ++ rest).head? = some '\x7b' := by
  rw [table, String.toList_append, String.toList_append]
  rfl

theorem reads_stringTable (entries : List (String × String)) (c : Char) :
    Reads (stringTable entries).toList (stringTableTokens entries) c := by
  refine reads_table (fun entry _ d _ => ?_) c
  refine reads_keyed entry.1 ?_ (reads_quote entry.2 d)
  rw [quote_head?]
  decide

theorem reads_stringSet (keys : List String) (c : Char) :
    Reads (stringSet keys).toList (stringSetTokens keys) c := by
  refine reads_table (fun key _ d hd => ?_) c
  have htrue : Reads "true".toList [.word "true".toList] d := by
    refine reads_word (x := 't') (by decide) (by decide) ?_
    rcases hd with rfl | rfl <;> decide
  have hne : ("true".toList ++ [d]).head? ≠ some '=' := by
    have hhead : ("true".toList ++ [d]).head? = some 't' := rfl
    rw [hhead]
    decide
  have hlit : "]=true" = "]=" ++ "true" := rfl
  rw [hlit, ← String.append_assoc]
  exact reads_keyed key hne htrue

/-! ## The grammar of these expressions -/

mutual

/-- Strings, `true`, and tables of fields. -/
inductive IsExpression : List Token → Prop
  | text (bytes : List UInt8) : IsExpression [.text bytes]
  | truth : IsExpression [.word "true".toList]
  | table {fields : List (List Token)} : (∀ f ∈ fields, IsField f) →
      IsExpression (tableTokens fields)

/-- An expression alone, or behind a key in brackets or one of two names. -/
inductive IsField : List Token → Prop
  | item {e : List Token} : IsExpression e → IsField e
  | keyed (key : List UInt8) {e : List Token} : IsExpression e →
      IsField ([.symbol ['['], .text key, .symbol [']'], .symbol ['=']] ++ e)
  | named {name : String} {e : List Token} : name = "regex" ∨ name = "methods" →
      IsExpression e → IsField ([.word name.toList, .symbol ['=']] ++ e)

end

/-- A string or a table, standing alone. -/
def IsValue (e : List Token) : Prop :=
  (∃ bytes, e = [.text bytes]) ∨ ∃ fields, e = tableTokens fields ∧ ∀ f ∈ fields, IsField f

theorem isValue_stringTableTokens (entries : List (String × String)) :
    IsValue (stringTableTokens entries) := by
  refine Or.inr ⟨_, rfl, fun f hf => ?_⟩
  obtain ⟨entry, -, rfl⟩ := List.mem_map.1 hf
  exact .keyed _ (.text _)

theorem isExpression_stringSetTokens (keys : List String) :
    IsExpression (stringSetTokens keys) := by
  refine .table fun f hf => ?_
  obtain ⟨key, -, rfl⟩ := List.mem_map.1 hf
  exact .keyed _ .truth

end LoginGate.Lua

namespace LoginGate.Access

open LoginGate.Text LoginGate.Lua

def Rule.tokens (r : Rule) : List Token :=
  tableTokens [[.word "regex".toList, .symbol ['='], .text (textBytes r.pattern)],
    [.word "methods".toList, .symbol ['=']] ++ stringSetTokens r.methods]

def ruleTableTokens (rules : List Rule) : List Token := tableTokens (rules.map Rule.tokens)

theorem reads_rule (r : Rule) (c : Char) : Reads r.text.toList r.tokens c := by
  have hregex : ∀ d, d = ',' ∨ d = '\x7d' → Reads ("regex=" ++ quote r.pattern).toList
      [.word "regex".toList, .symbol ['='], .text (textBytes r.pattern)] d := by
    intro d _
    refine reads_named rfl (by decide) (by decide) ?_ (reads_quote r.pattern d)
    rw [quote_head?]
    decide
  have hmethods : ∀ d, d = ',' ∨ d = '\x7d' → Reads ("methods=" ++ stringSet r.methods).toList
      ([.word "methods".toList, .symbol ['=']] ++ stringSetTokens r.methods) d := by
    intro d _
    refine reads_named rfl (by decide) (by decide) ?_ (reads_stringSet r.methods d)
    rw [stringSet, head?_table_append]
    decide
  refine @reads_table (String × List Token) [(_, _), (_, _)] Prod.fst Prod.snd ?_ c
  exact List.forall_mem_cons.2 ⟨hregex, List.forall_mem_singleton.2 hmethods⟩

theorem reads_ruleTableText (rules : List Rule) (c : Char) :
    Reads (ruleTableText rules).toList (ruleTableTokens rules) c :=
  reads_table (fun r _ d _ => reads_rule r d) c

theorem isField_rule (r : Rule) : IsField r.tokens := by
  refine .item (.table fun f hf => ?_)
  rcases List.mem_cons.1 hf with rfl | hf
  · exact .named (Or.inl rfl) (.text _)
  · obtain rfl := List.mem_singleton.1 hf
    exact .named (Or.inr rfl) (isExpression_stringSetTokens r.methods)

theorem isValue_ruleTableTokens (rules : List Rule) : IsValue (ruleTableTokens rules) := by
  refine Or.inr ⟨_, rfl, fun f hf => ?_⟩
  obtain ⟨r, -, rfl⟩ := List.mem_map.1 hf
  exact isField_rule r

end LoginGate.Access
