import LoginGate.Filter.Script
import LoginGate.Proofs.Lua.Expressions
import LoginGate.Proofs.Text.Filling
import LoginGate.Proofs.Text.Runs

/-!
# The lines of the script

A line of the script is code, or it binds a name to the open place of that name.  No token and no
comment goes on over the end of a line, so the lines are read and filled one by one:

    (∀ n ∈ places, Reads (value n) (tokens n) '\n') →
      the tokens of the filled lines are those of the lines, with `tokens n` in each place
                                                                               (run_lines)
-/

namespace LoginGate.Filter

open LoginGate.Text LoginGate.Lua

/-! ## Programs with open places -/

/-- A token of a program, or an open place. -/
inductive Slot where
  | token (t : Token)
  | place (name : String)
  deriving DecidableEq, Repr

namespace Slot

def name? : Slot → Option String
  | token _ => none
  | place name => some name

/-- The tokens at this point of a program whose open places are filled with these. -/
def filled (tokens : String → List Token) : Slot → List Token
  | token t => [t]
  | place name => tokens name

theorem flatMap_filled_token (tokens : String → List Token) (ts : List Token) :
    (ts.map token).flatMap (filled tokens) = ts := by
  rw [List.flatMap_map]
  exact List.flatMap_singleton' ts

end Slot

inductive Line where
  | code (text : List Char)
  | binding (name : String)
  deriving DecidableEq, Repr

namespace Line

def localWord : List Char := ['l', 'o', 'c', 'a', 'l']

/-- The text of a line with its end, and with a value in its open place. -/
def text (value : String → List Char) : Line → List Char
  | code s => s ++ ['\n']
  | binding name => localWord ++ [' '] ++ name.toList ++ [' ', '=', ' '] ++ value name ++ ['\n']

def codeTokens (s : List Char) : List Token :=
  match Scanner.run {} (s ++ ['\n']) with
  | some scanner => scanner.tokens
  | none => []

def slots : Line → List Slot
  | code s => (codeTokens s).map .token
  | binding name =>
    [.token (.word localWord), .token (.word name.toList), .token (.symbol ['=']), .place name]

def name? : Line → Option String
  | code _ => none
  | binding name => some name

/-- Does a line of code hold no open place, and is it a whole number of tokens? -/
def isCode (s : List Char) : Bool :=
  IsClear '\x7b' (s ++ ['\n']) &&
    (Scanner.run {} (s ++ ['\n'])).any fun scanner => scanner.mode = .between

def isName : List Char → Bool
  | [] => false
  | x :: name => Mode.start x = .word [x] && (x :: name).all Lua.isWordChar

/-- Can a line be read and filled by itself? -/
def Whole : Line → Prop
  | code s => isCode s = true
  | binding name => isName name.toList = true

end Line

/-- An open place as it is marked in the script. -/
def mark (name : String) : List Char := '\x7b' :: '\x7b' :: name.toList ++ ['\x7d', '\x7d']

/-! ## Reading lines -/

theorem run_code {s : List Char} (h : Line.isCode s = true) (before : List Token) :
    Scanner.run ⟨before, .between⟩ (s ++ ['\n']) =
      some ⟨before ++ Line.codeTokens s, .between⟩ := by
  rw [Line.isCode, Bool.and_eq_true, Option.any_eq_true] at h
  obtain ⟨-, ⟨tokens, mode⟩, hs, hm⟩ := h
  obtain rfl : mode = .between := of_decide_eq_true hm
  have hrun := Scanner.run_withTokens before {} (s ++ ['\n'])
  rw [hs] at hrun
  rw [Line.codeTokens, hs]
  simpa [Scanner.withTokens] using hrun

theorem reads_isName {name : List Char} (h : Line.isName name = true) {c : Char}
    (hc : Lua.isWordChar c = false) : Reads name [.word name] c := by
  cases name with
  | nil => cases h
  | cons x name =>
    simp only [Line.isName, List.all_cons, Bool.and_eq_true, decide_eq_true_eq] at h
    exact reads_word h.1 h.2.2 hc

theorem reads_binding {name value : List Char} {tokens : List Token}
    (h : Line.isName name = true) (hv : Reads value tokens '\n') :
    Reads (Line.localWord ++ [' '] ++ name ++ [' ', '=', ' '] ++ value)
      ([.word Line.localWord, .word name, .symbol ['=']] ++ tokens) '\n' := by
  have hvalue : Reads ([' '] ++ value) tokens '\n' := reads_gap hv
  have hblank : ([' '] ++ value ++ ['\n']).head? ≠ some '=' := by
    rw [List.append_assoc, List.singleton_append, List.head?_cons]
    decide
  have hequals : Reads (['='] ++ ([' '] ++ value)) ([.symbol ['=']] ++ tokens) '\n' :=
    reads_equals_append hblank hvalue
  have hgap : Reads ([' '] ++ (['='] ++ ([' '] ++ value))) ([.symbol ['=']] ++ tokens) '\n' :=
    reads_gap hequals
  have hname : Reads (name ++ ([' '] ++ (['='] ++ ([' '] ++ value))))
      ([.word name] ++ ([.symbol ['=']] ++ tokens)) '\n' := by
    refine Reads.append (fun d hd => reads_isName h ?_) hgap
    obtain rfl := Option.some.inj hd
    decide
  have hgap' : Reads ([' '] ++ (name ++ ([' '] ++ (['='] ++ ([' '] ++ value)))))
      ([.word name] ++ ([.symbol ['=']] ++ tokens)) '\n' :=
    reads_gap hname
  have hlocal : Reads
      (Line.localWord ++ ([' '] ++ (name ++ ([' '] ++ (['='] ++ ([' '] ++ value))))))
      ([.word Line.localWord] ++ ([.word name] ++ ([.symbol ['=']] ++ tokens))) '\n' := by
    refine Reads.append (fun d hd => ?_) hgap'
    obtain rfl := Option.some.inj hd
    exact reads_word (x := 'l') (by decide) (by decide) (by decide)
  simpa only [List.append_assoc, List.singleton_append, List.cons_append, List.nil_append]
    using hlocal

/-- A line is read for itself, whatever stands in its open place. -/
theorem run_line {l : Line} (h : l.Whole) {value : String → List Char}
    {tokens : String → List Token} (hv : ∀ n, l.name? = some n → Reads (value n) (tokens n) '\n')
    (before : List Token) :
    Scanner.run ⟨before, .between⟩ (l.text value) =
      some ⟨before ++ l.slots.flatMap (Slot.filled tokens), .between⟩ := by
  cases l with
  | code s =>
    show _ = some (Scanner.mk
      (before ++ ((Line.codeTokens s).map Slot.token).flatMap (Slot.filled tokens)) _)
    rw [Slot.flatMap_filled_token]
    exact run_code h before
  | binding name =>
    have hrun := reads_binding h (hv name rfl) before []
    have hend (t : List Token) : Scanner.run ⟨t, .between⟩ ['\n'] = some ⟨t, .between⟩ := rfl
    rw [hend] at hrun
    have hslots : (Line.binding name).slots.flatMap (Slot.filled tokens) =
        [.word Line.localWord, .word name.toList, .symbol ['=']] ++ tokens name := by
      simp only [Line.slots, List.flatMap_cons, List.flatMap_nil, Slot.filled, List.append_nil,
        List.cons_append, List.nil_append]
    rw [hslots]
    exact hrun

def places (lines : List Line) : List String := lines.filterMap Line.name?

theorem isName_of_mem_places {lines : List Line} (h : ∀ l ∈ lines, l.Whole) {name : String}
    (hn : name ∈ places lines) : Line.isName name.toList = true := by
  obtain ⟨l, hl, hl'⟩ := List.mem_filterMap.1 hn
  have hw := h l hl
  cases l with
  | code s => cases hl'
  | binding other =>
    obtain rfl := Option.some.inj hl'
    exact hw

/-- **Lines are read one by one.** -/
theorem run_lines {lines : List Line} (h : ∀ l ∈ lines, l.Whole) {value : String → List Char}
    {tokens : String → List Token} (hv : ∀ n ∈ places lines, Reads (value n) (tokens n) '\n')
    (before : List Token) :
    Scanner.run ⟨before, .between⟩ (lines.flatMap (Line.text value)) =
      some ⟨before ++ (lines.flatMap Line.slots).flatMap (Slot.filled tokens), .between⟩ := by
  induction lines generalizing before with
  | nil => simp [Scanner.run]
  | cons l lines ih =>
    have hl := run_line (h l List.mem_cons_self)
      (fun n hn => hv n (List.mem_filterMap.2 ⟨l, List.mem_cons_self, hn⟩)) before
    rw [List.flatMap_cons, Scanner.run_append, hl, List.flatMap_cons, List.flatMap_append,
      ← List.append_assoc]
    refine ih (fun m hm => h m (List.mem_cons_of_mem l hm)) (fun n hn => hv n ?_) _
    obtain ⟨m, hm, hn⟩ := List.mem_filterMap.1 hn
    exact List.mem_filterMap.2 ⟨m, List.mem_cons_of_mem l hm, hn⟩

/-! ## Filling lines -/

theorem isWordChar_of_isName {name : List Char} (h : Line.isName name = true) :
    ∀ c ∈ name, Lua.isWordChar c = true := by
  cases name with
  | nil => cases h
  | cons x name =>
    simp only [Line.isName, Bool.and_eq_true, List.all_eq_true] at h
    exact h.2

/-- The characters of names are neither blank nor braces. -/
theorem plain_of_isWordChar {c : Char} (h : Lua.isWordChar c = true) :
    isBlank c = false ∧ c ≠ '\x7b' ∧ c ≠ '\x7d' := by
  have hn : (48 ≤ c.toNat ∧ c.toNat ≤ 57) ∨ (65 ≤ c.toNat ∧ c.toNat ≤ 90) ∨ c.toNat = 95 ∨
      (97 ≤ c.toNat ∧ c.toNat ≤ 122) := by
    have hupper : c.isUpper = decide (65 ≤ c.val ∧ c.val ≤ 90) := rfl
    have hlower : c.isLower = (decide (97 ≤ c.val) && decide (c.val ≤ 122)) := rfl
    have halpha : c.isAlpha = (c.isUpper || c.isLower) := rfl
    simp only [Lua.isWordChar, startsWord, isDigit, halpha, hupper, hlower, Bool.or_eq_true,
      Bool.and_eq_true, decide_eq_true_eq, UInt32.le_iff_toNat_le] at h
    rcases h with ((h | h) | rfl) | h
    · exact Or.inr (Or.inl h)
    · exact Or.inr (Or.inr (Or.inr h))
    · exact Or.inr (Or.inr (Or.inl rfl))
    · exact Or.inl h
  refine ⟨?_, ?_, ?_⟩
  · have hb : ¬ isBlank c = true := by
      simp only [isBlank, Bool.or_eq_true, Bool.and_eq_true, decide_eq_true_eq, beq_iff_eq]
      omega
    simpa using hb
  · rintro rfl
    revert hn
    decide
  · rintro rfl
    revert hn
    decide

theorem fill_line {l : Line} (h : l.Whole) {value? : List Char → Option (List Char)}
    {value : String → List Char} (hv : ∀ n, l.name? = some n → value? n.toList = some (value n))
    (rest : List Char) :
    fillChars value? (l.text mark ++ rest) = (fillChars value? rest).map (l.text value ++ ·) := by
  cases l with
  | code s =>
    have h : Line.isCode s = true := h
    rw [Line.isCode, Bool.and_eq_true] at h
    exact fillChars_append (of_decide_eq_true h.1) rest
  | binding name =>
    have hplain := fun c hc => plain_of_isWordChar (isWordChar_of_isName h c hc)
    have htrim : trimChars name.toList = name.toList :=
      trimChars_of_forall fun c hc => (hplain c hc).1
    have hlead : IsClear '\x7b' (Line.localWord ++ [' '] ++ name.toList ++ [' ', '=', ' ']) := by
      apply isClear_of_not_mem
      have hn : '\x7b' ∉ name.toList := fun hm => (hplain _ hm).2.1 rfl
      simp [Line.localWord, hn]
    have hclosed : IsClear '\x7d' name.toList :=
      isClear_of_not_mem fun hm => (hplain _ hm).2.2 rfl
    have htext : (Line.binding name).text mark ++ rest =
        (Line.localWord ++ [' '] ++ name.toList ++ [' ', '=', ' ']) ++
          ('\x7b' :: '\x7b' :: name.toList ++ '\x7d' :: '\x7d' :: (['\n'] ++ rest)) := by
      simp only [Line.text, mark, List.append_assoc, List.cons_append, List.nil_append]
    have hend : IsClear '\x7b' ['\n'] := by decide
    rw [htext, fillChars_append hlead, fillChars_place hclosed (htrim ▸ hv name rfl),
      fillChars_append hend]
    cases fillChars value? rest with
    | error e => rfl
    | ok filled =>
      refine congrArg Except.ok ?_
      simp only [Line.text, List.append_assoc]

/-- **Lines are filled one by one.** -/
theorem fill_lines {lines : List Line} (h : ∀ l ∈ lines, l.Whole)
    {value? : List Char → Option (List Char)} {value : String → List Char}
    (hv : ∀ n ∈ places lines, value? n.toList = some (value n)) :
    fillChars value? (lines.flatMap (Line.text mark)) = .ok (lines.flatMap (Line.text value)) := by
  induction lines with
  | nil => exact fillChars_of_eq_none rfl
  | cons l lines ih =>
    rw [List.forall_mem_cons] at h
    have hl : ∀ n, l.name? = some n → value? n.toList = some (value n) :=
      fun n hn => hv n (List.mem_filterMap.2 ⟨l, List.mem_cons_self, hn⟩)
    have hrest : ∀ n ∈ places lines, value? n.toList = some (value n) := by
      intro n hn
      obtain ⟨m, hm, hn⟩ := List.mem_filterMap.1 hn
      exact hv n (List.mem_filterMap.2 ⟨m, List.mem_cons_of_mem l hm, hn⟩)
    rw [List.flatMap_cons, fill_line h.1 hl, ih h.2 hrest]
    rfl

theorem filterMap_name?_slots (lines : List Line) :
    (lines.flatMap Line.slots).filterMap Slot.name? = places lines := by
  induction lines with
  | nil => rfl
  | cons l lines ih =>
    have hl : l.slots.filterMap Slot.name? = l.name?.toList := by
      cases l with
      | code s =>
        show ((Line.codeTokens s).map Slot.token).filterMap Slot.name? = []
        rw [List.filterMap_map]
        exact List.filterMap_eq_nil_iff.2 fun t _ => rfl
      | binding name => rfl
    rw [List.flatMap_cons, List.filterMap_append, hl, ih, places, places, List.filterMap_cons]
    cases l.name? <;> rfl

end LoginGate.Filter
