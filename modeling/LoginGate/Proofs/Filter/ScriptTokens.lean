import LoginGate.Proofs.Filter.ScriptLines

/-!
# The tokens of the script

Whatever a policy holds, the tokens of its script are those of the script with open places, where
each place is taken by one expression: a string, or a table made of strings.  So nothing of a policy
gets out of the expression that it belongs to (`script_tokens`).
-/

namespace LoginGate.Filter

open LoginGate.Text LoginGate.Lua LoginGate.Access

/-! ## The lines of the template -/

/-- Do some texts write lines with these open places, in order? -/
def Outlined (texts names : List String) : Prop :=
  ∃ lines : List Line, (∀ l ∈ lines, l.Whole) ∧ places lines = names ∧
    (texts.map String.toList).flatMap (· ++ ['\n']) = lines.flatMap (Line.text mark)

theorem outlined_nil : Outlined [] [] := by
  refine ⟨[], fun l hl => ?_, rfl, rfl⟩
  cases hl

theorem outlined_code {s : String} {l : List Char} {texts names : List String}
    (hs : s = String.ofList l) (hl : Line.isCode l = true) (h : Outlined texts names) :
    Outlined (s :: texts) names := by
  obtain ⟨lines, hw, rfl, ht⟩ := h
  refine ⟨.code l :: lines, List.forall_mem_cons.2 ⟨hl, hw⟩, rfl, ?_⟩
  rw [List.map_cons, List.flatMap_cons, List.flatMap_cons, ht, hs, String.toList_ofList]
  rfl

/-- A line that is written in two halves. -/
theorem outlined_code_append {s t : String} {l m : List Char} {texts names : List String}
    (hs : s = String.ofList l) (ht : t = String.ofList m) (hl : Line.isCode (l ++ m) = true)
    (h : Outlined texts names) : Outlined ((s ++ t) :: texts) names := by
  refine outlined_code ?_ hl h
  rw [hs, ht, String.ofList_append]

/-- Do some texts write lines that bind these names to their open places, one after another, and
nothing else but comments? -/
def Binds (texts names : List String) : Prop :=
  ∃ lines : List Line, (∀ l ∈ lines, l.Whole) ∧
    lines.flatMap Line.slots = names.flatMap (fun name => (Line.binding name).slots) ∧
    (texts.map String.toList).flatMap (· ++ ['\n']) = lines.flatMap (Line.text mark)

theorem binds_nil : Binds [] [] := by
  refine ⟨[], fun l hl => ?_, rfl, rfl⟩
  cases hl

theorem binds_comment {s : String} {l : List Char} {texts names : List String}
    (hs : s = String.ofList l) (hl : Line.isCode l = true ∧ Line.codeTokens l = [])
    (h : Binds texts names) : Binds (s :: texts) names := by
  obtain ⟨lines, hw, hslots, ht⟩ := h
  refine ⟨.code l :: lines, List.forall_mem_cons.2 ⟨hl.1, hw⟩, ?_, ?_⟩
  · rw [List.flatMap_cons, hslots, Line.slots, hl.2]
    rfl
  · rw [List.map_cons, List.flatMap_cons, List.flatMap_cons, ht, hs, String.toList_ofList]
    rfl

theorem whole_binding {name : String} {l : List Char} (hl : name = String.ofList l)
    (hname : Line.isName l = true) : (Line.binding name).Whole := by
  rw [Line.Whole, hl, String.toList_ofList]
  exact hname

theorem text_binding {s name : String}
    (hs : s = "local " ++ name ++ " = " ++ String.ofList (mark name)) :
    (Line.binding name).text mark = s.toList ++ ['\n'] := by
  have hlocal : "local ".toList = Line.localWord ++ [' '] := by decide
  have hequals : " = ".toList = [' ', '=', ' '] := by decide
  rw [hs, Line.text]
  simp only [String.toList_append, String.toList_ofList, hlocal, hequals]

theorem binds_binding {s name : String} {l : List Char} {texts names : List String}
    (hl : name = String.ofList l) (hname : Line.isName l = true)
    (hs : s = "local " ++ name ++ " = " ++ String.ofList (mark name)) (h : Binds texts names) :
    Binds (s :: texts) (name :: names) := by
  obtain ⟨lines, hw, hslots, ht⟩ := h
  refine ⟨.binding name :: lines, List.forall_mem_cons.2 ⟨whole_binding hl hname, hw⟩, ?_, ?_⟩
  · rw [List.flatMap_cons, List.flatMap_cons, hslots]
  · rw [List.map_cons, List.flatMap_cons, List.flatMap_cons, ht, text_binding hs]

theorem binds_scriptTemplateLines : Binds (scriptTemplateLines.take 17) ScriptValues.names := by
  simp only [scriptTemplateLines, List.take_succ_cons, List.take_zero, ScriptValues.names]
  iterate 6 refine binds_comment rfl (by decide +kernel) ?_
  iterate 3 refine binds_binding rfl (by decide +kernel) (by decide +kernel) ?_
  refine binds_comment rfl (by decide +kernel) ?_
  iterate 4 refine binds_binding rfl (by decide +kernel) (by decide +kernel) ?_
  refine binds_comment rfl (by decide +kernel) ?_
  iterate 2 refine binds_binding rfl (by decide +kernel) (by decide +kernel) ?_
  exact binds_nil

set_option maxRecDepth 2000 in
theorem outlined_functions : Outlined (scriptTemplateLines.drop 17) [] := by
  simp only [scriptTemplateLines, List.drop_succ_cons, List.drop_zero]
  iterate 96 refine outlined_code rfl (by decide +kernel) ?_
  refine outlined_code_append rfl rfl (by decide +kernel) ?_
  iterate 5 refine outlined_code rfl (by decide +kernel) ?_
  exact outlined_nil

/-- The lines of the script: those that bind its open places, and then its functions. -/
theorem exists_scriptLines : ∃ lead functions : List Line,
    (∀ l ∈ lead ++ functions, l.Whole) ∧
    lead.flatMap Line.slots =
      ScriptValues.names.flatMap (fun name => (Line.binding name).slots) ∧
    places (lead ++ functions) = ScriptValues.names ∧
    (scriptTemplateLines.map String.toList).flatMap (· ++ ['\n']) =
      (lead ++ functions).flatMap (Line.text mark) := by
  obtain ⟨lead, hlead, hslots, htext⟩ := binds_scriptTemplateLines
  obtain ⟨functions, hfunctions, hplaces, htext'⟩ := outlined_functions
  refine ⟨lead, functions, List.forall_mem_append.2 ⟨hlead, hfunctions⟩, hslots, ?_, ?_⟩
  · rw [← filterMap_name?_slots, List.flatMap_append, List.filterMap_append, hslots,
      filterMap_name?_slots functions, hplaces]
    rfl
  · rw [List.flatMap_append, ← htext, ← htext', ← List.flatMap_append, ← List.map_append,
      List.take_append_drop]

/-- The lines of the script, with its open places in order. -/
theorem outlined_scriptTemplateLines : Outlined scriptTemplateLines ScriptValues.names := by
  obtain ⟨lead, functions, hw, -, hplaces, htext⟩ := exists_scriptLines
  exact ⟨_, hw, hplaces, htext⟩

theorem toList_scriptTemplate :
    scriptTemplate.toList = (scriptTemplateLines.map String.toList).flatMap (· ++ ['\n']) := by
  have hjoin : ∀ ls : List (List Char), ls ≠ [] →
      ['\n'].intercalate ls ++ ['\n'] = ls.flatMap (· ++ ['\n']) := by
    intro ls hls
    induction ls with
    | nil => exact absurd rfl hls
    | cons l ls ih =>
      by_cases hn : ls = []
      · simp [hn]
      · rw [List.intercalate_cons_of_ne_nil hn, List.flatMap_cons, ← ih hn]
        simp only [List.append_assoc]
  have hline : "\n".toList = ['\n'] := by decide
  rw [scriptTemplate, String.toList_append, String.toList_intercalate, hline]
  exact hjoin _ (List.cons_ne_nil _ _)

/-! ## Open places and expressions -/

def markTokens (name : String) : List Token :=
  [.symbol ['\x7b'], .symbol ['\x7b'], .word name.toList, .symbol ['\x7d'], .symbol ['\x7d']]

theorem reads_mark {name : String} (h : Line.isName name.toList = true) (c : Char) :
    Reads (mark name) (markTokens name) c := by
  have hclose : Reads (['\x7d'] ++ ['\x7d']) ([.symbol ['\x7d']] ++ [.symbol ['\x7d']]) c :=
    Reads.append (fun d _ => reads_lone rfl d) (reads_lone rfl c)
  have hname : Reads (name.toList ++ (['\x7d'] ++ ['\x7d']))
      ([.word name.toList] ++ ([.symbol ['\x7d']] ++ [.symbol ['\x7d']])) c := by
    refine Reads.append (fun d hd => reads_isName h ?_) hclose
    obtain rfl := Option.some.inj hd
    decide
  have hopen := Reads.append (fun d _ => reads_lone (x := '\x7b') rfl d)
    (Reads.append (fun d _ => reads_lone (x := '\x7b') rfl d) hname)
  exact hopen

/-- The expressions that a policy fills the open places with, in the order of the script. -/
def expressions (c : CompiledPolicy) : List (List Token) :=
  [ruleTableTokens c.ignore, ruleTableTokens c.require, ruleTableTokens c.deny,
    [.text (textBytes c.endpoints.authorize)], stringTableTokens c.loginParams,
    [.text (textBytes c.endpoints.endSessionOrEmpty)], [.text (textBytes c.postLogoutRedirectURI)],
    [.text (textBytes bypassHeader)], [.text (textBytes denyRedirectHeader)]]

def expression (c : CompiledPolicy) (name : String) : List Token :=
  ((ScriptValues.names.zip (expressions c)).lookup name).getD []

theorem reads_value (c : CompiledPolicy) :
    ∀ name ∈ ScriptValues.names, ∃ value, (ScriptValues.ofPolicy c).find? name = some value ∧
      Reads value.toList (expression c name) '\n' ∧ IsValue (expression c name) := by
  have htext (s : String) : Reads (quote s).toList [.text (textBytes s)] '\n' ∧
      IsValue [.text (textBytes s)] := ⟨reads_quote s _, Or.inl ⟨_, rfl⟩⟩
  have hrules (rules : List Rule) :
      Reads (ruleTableText rules).toList (ruleTableTokens rules) '\n' ∧
        IsValue (ruleTableTokens rules) :=
    ⟨reads_ruleTableText rules _, isValue_ruleTableTokens rules⟩
  simp only [ScriptValues.names, List.forall_mem_cons]
  exact ⟨⟨_, rfl, hrules _⟩, ⟨_, rfl, hrules _⟩, ⟨_, rfl, hrules _⟩, ⟨_, rfl, htext _⟩,
    ⟨_, rfl, reads_stringTable _ _, isValue_stringTableTokens _⟩, ⟨_, rfl, htext _⟩,
    ⟨_, rfl, htext _⟩, ⟨_, rfl, htext _⟩, ⟨_, rfl, htext _⟩, by simp⟩

/-- The value with a name, empty if there is none. -/
def ScriptValues.value (v : ScriptValues) (name : String) : String := (v.find? name).getD ""

theorem ScriptValues.find?_eq_some (v : ScriptValues) :
    ∀ name ∈ names, v.find? name = some (v.value name) := by
  simp only [names, List.forall_mem_cons]
  exact ⟨rfl, rfl, rfl, rfl, rfl, rfl, rfl, rfl, rfl, by simp⟩

theorem script_eq_lines {lines : List Line} (h : ∀ l ∈ lines, l.Whole)
    (hplaces : places lines = ScriptValues.names)
    (htext : scriptTemplate.toList = lines.flatMap (Line.text mark)) (v : ScriptValues) :
    script v =
      .ok (String.ofList (lines.flatMap (Line.text fun name => (v.value name).toList))) := by
  have hvalue : ∀ n ∈ places lines,
      (v.find? (String.ofList n.toList)).map String.toList = some (v.value n).toList := by
    intro n hn
    rw [hplaces] at hn
    rw [String.ofList_toList, v.find?_eq_some n hn, Option.map_some]
  rw [script, fillWith, fill, htext, fill_lines h hvalue]
  rfl

def valueText (c : CompiledPolicy) (name : String) : List Char :=
  (((ScriptValues.ofPolicy c).find? name).getD "").toList

/-- The script of a policy, line by line. -/
theorem script_eq {lines : List Line} (h : ∀ l ∈ lines, l.Whole)
    (hplaces : places lines = ScriptValues.names)
    (htext : scriptTemplate.toList = lines.flatMap (Line.text mark)) (c : CompiledPolicy) :
    script (.ofPolicy c) = .ok (String.ofList (lines.flatMap (Line.text (valueText c)))) :=
  script_eq_lines h hplaces htext (.ofPolicy c)

/-- **The tokens of a script.**  The open places of the script are the nine that have a name.  For
every policy the script can be written, and it has the same tokens as the script with open places,
but for the places themselves: each is taken by the policy's expression for it, which is a string or
a table of strings. -/
theorem script_tokens :
    ∃ outline : List Slot, outline.filterMap Slot.name? = ScriptValues.names ∧
      tokens? scriptTemplate.toList = some (outline.flatMap (Slot.filled markTokens)) ∧
      ∀ c : CompiledPolicy, (∀ name ∈ ScriptValues.names, IsValue (expression c name)) ∧
        ∃ text, script (.ofPolicy c) = .ok text ∧
          tokens? text.toList = some (outline.flatMap (Slot.filled (expression c))) := by
  obtain ⟨lines, hw, hplaces, htext⟩ := outlined_scriptTemplateLines
  rw [← toList_scriptTemplate] at htext
  have htokens {value : String → List Char} {tokens : String → List Token}
      (hv : ∀ n ∈ places lines, Reads (value n) (tokens n) '\n') :
      tokens? (lines.flatMap (Line.text value)) =
        some ((lines.flatMap Line.slots).flatMap (Slot.filled tokens)) := by
    have hrun : Scanner.run {} _ = _ := run_lines hw hv []
    rw [tokens?, hrun]
    exact congrArg some (List.append_nil _)
  refine ⟨lines.flatMap Line.slots, (filterMap_name?_slots lines).trans hplaces, ?_, fun c => ?_⟩
  · rw [htext]
    exact htokens fun n hn => reads_mark (isName_of_mem_places hw hn) _
  · refine ⟨fun name hn => (reads_value c name hn).elim fun _ h => h.2.2, _,
      script_eq hw hplaces htext c, ?_⟩
    rw [String.toList_ofList]
    refine htokens fun n hn => ?_
    rw [hplaces] at hn
    obtain ⟨value, hv, hr, -⟩ := reads_value c n hn
    rwa [valueText, hv, Option.getD_some]

end LoginGate.Filter
