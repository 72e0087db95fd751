import LoginGate.Proofs.Access.RuleTables
import LoginGate.Proofs.Filter.ScriptTokens

/-!
# What the script binds

The script of a policy begins by binding its nine open places, so a reader of the script finds the
policy's values under their names: the rule tables as lists of records, and the texts as the bytes
of what they were written for.

    script (.ofPolicy c) = .ok source → name ∈ ScriptValues.names →
      boundValue? source name = some (valueOf c name)                      (boundValue?_script)
-/

namespace LoginGate.Lua

open LoginGate.Text

/-! ## Bindings -/

/-- The tokens of `local name = value`. -/
def bindingTokens (name : List Char) (value : List Token) : List Token :=
  [.word ['l', 'o', 'c', 'a', 'l'], .word name, .symbol ['=']] ++ value

/-- A binding is read up to the end of its value. -/
theorem bindings_cons {name : List Char} {e : List Token} {v : Value} (h : Makes e v) {fuel : Nat}
    (rest : List Token) (hf : e.length < fuel) :
    bindings (fuel + 1) (bindingTokens name e ++ rest) = (name, v) :: bindings fuel rest := by
  rw [bindingTokens, List.append_assoc]
  simp only [List.cons_append, List.nil_append, bindings, h fuel rest hf]

/-- A program that begins with bindings binds their names to their values, in order. -/
theorem exists_bindings_eq {α : Type} {items : List α} {name : α → List Char}
    {tokens : α → List Token} {value : α → Value} (h : ∀ a ∈ items, Makes (tokens a) (value a))
    (rest : List Token) {fuel : Nat}
    (hf : (items.flatMap fun a => bindingTokens (name a) (tokens a)).length < fuel) :
    ∃ more, bindings fuel ((items.flatMap fun a => bindingTokens (name a) (tokens a)) ++ rest) =
      (items.map fun a => (name a, value a)) ++ more := by
  induction items generalizing fuel with
  | nil => exact ⟨_, rfl⟩
  | cons a items ih =>
    obtain ⟨ha, hitems⟩ := List.forall_mem_cons.1 h
    rw [List.flatMap_cons, List.length_append] at hf
    have hlength : (tokens a).length < (bindingTokens (name a) (tokens a)).length := by
      rw [bindingTokens, List.length_append]
      exact Nat.lt_add_of_pos_left (Nat.zero_lt_succ _)
    obtain ⟨fuel, rfl⟩ : ∃ n, fuel = n + 1 := ⟨fuel - 1, by omega⟩
    obtain ⟨more, hmore⟩ := @ih hitems fuel (by omega)
    refine ⟨more, ?_⟩
    rw [List.flatMap_cons, List.append_assoc, bindings_cons ha _ (by omega), hmore]
    rfl

theorem lookup_map_append {α β γ : Type} [BEq β] [LawfulBEq β] {key : α → β}
    (hkey : ∀ a b, key a = key b → a = b) (value : α → γ) {items : List α} {a : α} (ha : a ∈ items)
    (more : List (β × γ)) :
    ((items.map fun a => (key a, value a)) ++ more).lookup (key a) = some (value a) := by
  induction items with
  | nil => cases ha
  | cons b items ih =>
    rw [List.map_cons, List.cons_append, List.lookup_cons]
    by_cases hb : key a = key b
    · obtain rfl := hkey a b hb
      rw [beq_self_eq_true]
    · rw [beq_false_of_ne hb]
      exact ih ((List.mem_cons.1 ha).resolve_left fun he => hb (congrArg key he))

end LoginGate.Lua

namespace LoginGate.Filter

open LoginGate.Text LoginGate.Lua LoginGate.Access

/-! ## The values of a policy -/

def values (c : CompiledPolicy) : List Value :=
  [.table (c.ignore.map Rule.value) [], .table (c.require.map Rule.value) [],
    .table (c.deny.map Rule.value) [], .text (textBytes c.endpoints.authorize),
    .table [] (c.loginParams.map fun entry => (textBytes entry.1, .text (textBytes entry.2))),
    .text (textBytes c.endpoints.endSessionOrEmpty), .text (textBytes c.postLogoutRedirectURI),
    .text (textBytes bypassHeader), .text (textBytes denyRedirectHeader)]

def valueOf (c : CompiledPolicy) (name : String) : Value :=
  ((ScriptValues.names.zip (values c)).lookup name).getD (.truth false)

theorem makes_stringTable (entries : List (String × String)) :
    Makes (stringTableTokens entries)
      (.table [] (entries.map fun entry => (textBytes entry.1, .text (textBytes entry.2)))) :=
  makes_record fun entry _ => makesEntry_keyed (textBytes entry.1) (makes_text _)

/-- The expression for an open place makes the value for it. -/
theorem makes_expression (c : CompiledPolicy) :
    ∀ name ∈ ScriptValues.names, Makes (expression c name) (valueOf c name) := by
  simp only [ScriptValues.names, List.forall_mem_cons]
  exact ⟨makes_ruleTable c.ignore, makes_ruleTable c.require, makes_ruleTable c.deny,
    makes_text _, makes_stringTable c.loginParams, makes_text _, makes_text _, makes_text _,
    makes_text _, by simp⟩

/-- The tokens of a script begin with its bindings. -/
theorem exists_tokens?_script {c : CompiledPolicy} {source : String}
    (h : script (.ofPolicy c) = .ok source) : ∃ rest, tokens? source.toList =
      some ((ScriptValues.names.flatMap fun name =>
        bindingTokens name.toList (expression c name)) ++ rest) := by
  obtain ⟨lead, functions, hw, hslots, hplaces, htext⟩ := exists_scriptLines
  rw [script_eq hw hplaces (toList_scriptTemplate.trans htext) c] at h
  obtain rfl := Except.ok.inj h
  have hv : ∀ n ∈ places (lead ++ functions),
      Reads (valueText c n) (expression c n) '\n' := by
    intro n hn
    rw [hplaces] at hn
    obtain ⟨value, hv, hr, -⟩ := reads_value c n hn
    rwa [valueText, hv, Option.getD_some]
  have hlead : (lead.flatMap Line.slots).flatMap (Slot.filled (expression c)) =
      ScriptValues.names.flatMap fun name => bindingTokens name.toList (expression c name) := by
    rw [hslots, List.flatMap_assoc]
    refine List.flatMap_congr fun name _ => ?_
    simp only [Line.slots, List.flatMap_cons, List.flatMap_nil, Slot.filled, List.append_nil,
      List.cons_append, List.nil_append, bindingTokens, Line.localWord]
  have hrun : Scanner.run {} _ = _ := run_lines hw hv []
  refine ⟨(functions.flatMap Line.slots).flatMap (Slot.filled (expression c)), ?_⟩
  rw [String.toList_ofList, tokens?, hrun, ← hlead, ← List.flatMap_append, ← List.flatMap_append]
  exact congrArg some (List.append_nil _)

/-- **What the script binds.** -/
theorem boundValue?_script {c : CompiledPolicy} {source : String}
    (h : script (.ofPolicy c) = .ok source) {name : String} (hn : name ∈ ScriptValues.names) :
    boundValue? source name = some (valueOf c name) := by
  obtain ⟨rest, htokens⟩ := exists_tokens?_script h
  obtain ⟨more, hmore⟩ := @exists_bindings_eq _ _ String.toList _ _ (makes_expression c) rest _
    (Nat.lt_succ_of_le (List.length_append ▸ Nat.le_add_right _ rest.length))
  rw [boundValue?, htokens]
  show List.lookup _ (bindings _ _) = _
  rw [hmore]
  exact lookup_map_append (fun _ _ => String.toList_inj.1) (valueOf c) hn more

end LoginGate.Filter
