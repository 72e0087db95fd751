import LoginGate.Proofs.Toml.WholeNumbers

/-!
# Documents that are made of sections

A document that is written section by section is read in the same steps.  `Takes` relates a piece of
the text to what it does to the reader's progress, and is composed with the pieces (`Takes.append`);
a piece that binds keys in whichever table is open is a `Fills`.
-/

namespace LoginGate.Toml

open LoginGate.Text

/-! ## Pieces of a document -/

/-- A piece of a document takes the reader from one progress to another, in so many lines. -/
def Takes (lines : Nat) (piece : List Char) (p q : Progress) : Prop :=
  lines ≤ piece.length ∧
    ∀ fuel rest, readLines? (fuel + lines) p (piece ++ rest) = readLines? fuel q rest

theorem Takes.nil (p : Progress) : Takes 0 [] p p := ⟨Nat.le_refl _, fun _ _ => rfl⟩

theorem Takes.append {m n : Nat} {one other : List Char} {p q r : Progress} (h : Takes m one p q)
    (h' : Takes n other q r) : Takes (n + m) (one ++ other) p r := by
  refine ⟨?_, fun fuel rest => ?_⟩
  · have := h.1
    have := h'.1
    rw [List.length_append]
    omega
  · rw [← Nat.add_assoc, List.append_assoc, h.2, h'.2]

/-- An empty line may stand in front of a header. -/
theorem Takes.afterBreak {lines : Nat} {piece : List Char} {p q : Progress}
    (h : Takes (lines + 1) piece p q) (hpiece : piece.head? = some '[') :
    Takes (lines + 1) ('\n' :: piece) p q := by
  cases piece with
  | nil => cases hpiece
  | cons c piece =>
    obtain rfl : c = '[' := Option.some.inj hpiece
    refine ⟨Nat.le_trans h.1 (Nat.le_succ _), fun fuel rest => ?_⟩
    have hnext := h.2 fuel rest
    rwa [← Nat.add_assoc, List.cons_append, ← readLines?_break, Nat.add_assoc] at hnext

section WholeDocuments

variable {lines : Nat} {piece : List Char} {p : Progress}

theorem readLines?_of_takes (h : Takes lines piece {} p) (rest : List Char) :
    ∃ fuel, readLines? ((piece ++ rest).length + 1) {} (piece ++ rest) =
      readLines? (fuel + 1) p rest := by
  obtain ⟨fuel, hfuel⟩ := Nat.exists_eq_add_of_le h.1
  refine ⟨fuel + rest.length, ?_⟩
  have hsum : (piece ++ rest).length + 1 = fuel + rest.length + 1 + lines := by
    rw [List.length_append]
    omega
  rw [hsum, h.2]

theorem read?_ofList (h : Takes lines piece {} p)
    (hmark : piece.head?.any (· != '\uFEFF') = true) (rest : List Char) :
    ∃ fuel, read? (String.ofList (piece ++ rest)) =
      (readLines? (fuel + 1) p rest).map fun p => finishMembers p.root.members := by
  obtain ⟨fuel, hfuel⟩ := readLines?_of_takes h rest
  refine ⟨fuel, ?_⟩
  unfold read?
  rw [String.toList_ofList]
  split
  · rename_i heq
    cases piece with
    | nil => cases hmark
    | cons c piece =>
      rw [(List.cons.inj heq).1] at hmark
      cases hmark
  · simp only [hfuel]

/-- A document that is taken as a whole is read. -/
theorem read?_of_takes (h : Takes lines piece {} p)
    (hmark : piece.head?.any (· != '\uFEFF') = true) :
    read? (String.ofList piece) = some (finishMembers p.root.members) := by
  obtain ⟨fuel, hread⟩ := read?_ofList h hmark []
  rw [List.append_nil, readLines?_end] at hread
  exact hread

/-- A document with a part that cannot be taken is not read. -/
theorem read?_of_stuck (h : Takes lines piece {} p)
    (hmark : piece.head?.any (· != '\uFEFF') = true) {rest : List Char}
    (hrest : ∀ fuel, readLines? (fuel + 1) p rest = none) :
    read? (String.ofList (piece ++ rest)) = none := by
  obtain ⟨fuel, hread⟩ := read?_ofList h hmark rest
  rw [hread, hrest, Option.map_none]

end WholeDocuments

/-! ## Bound keys -/

section Members

variable {key : String} {members : List (String × Draft)} (h : List.lookup key members = none)
  (origin : Origin)

include h

theorem set_new (d : Draft) :
    DraftTable.set key d ⟨origin, members⟩ = ⟨origin, members ++ [(key, d)]⟩ := by
  simp [DraftTable.set, DraftTable.find?, h]

theorem find?_last (d : Draft) :
    DraftTable.find? key ⟨origin, members ++ [(key, d)]⟩ = some d := by
  simp [DraftTable.find?, List.lookup_append, h]

/-- The last key that was bound is bound again. -/
theorem set_last (d d' : Draft) :
    DraftTable.set key d' ⟨origin, members ++ [(key, d)]⟩ = ⟨origin, members ++ [(key, d')]⟩ := by
  have hsame : (members.map fun entry => if entry.1 = key then (key, d') else entry) = members := by
    refine (List.map_congr_left fun entry hentry => if_neg ?_).trans (List.map_id _)
    exact (bne_iff_ne.1 (List.lookup_eq_none_iff.1 h entry hentry)).symm
  rw [DraftTable.set, find?_last h, Option.isSome_some, if_pos rfl]
  simp only [List.map_append, hsame, List.map_cons, if_pos, List.map_nil]

theorem bind?_new (v : Value) :
    DraftTable.bind? .dotted [] key v ⟨.header, members⟩ =
      some ⟨.header, members ++ [(key, .value v)]⟩ := by
  rw [DraftTable.bind?, DraftTable.within, DraftTable.find?, h, set_new h]
  rfl

/-- A header without dots opens a new table. -/
theorem openTable?_new :
    DraftTable.openTable? [] key ⟨.header, members⟩ =
      some ⟨.header, members ++ [(key, .table .header [])]⟩ := by
  rw [DraftTable.openTable?, DraftTable.within, DraftTable.find?, h, set_new h]

end Members

/-! ## The open table -/

/-- `put t` is a document whose table at a path is `t`. -/
def Focuses (path : List String) (put : DraftTable → DraftTable) : Prop :=
  ∀ (members : List (String × Draft)) (change : DraftTable → Option DraftTable),
    (put ⟨.header, members⟩).within .implied path change = (change ⟨.header, members⟩).map put

theorem within_append (made : Origin) (path path' : List String)
    (change : DraftTable → Option DraftTable) (t : DraftTable) :
    t.within made (path ++ path') change =
      t.within made path fun inner => inner.within made path' change := by
  induction path generalizing t with
  | nil => rfl
  | cons name path ih => simp only [List.cons_append, DraftTable.within, ih]

/-- The document with one more table. -/
def withTable (before : List (String × Draft)) (name : String) (t : DraftTable) : DraftTable :=
  ⟨.header, before ++ [(name, .table t.origin t.members)]⟩

theorem focuses_withTable {before : List (String × Draft)} {name : String}
    (h : List.lookup name before = none) : Focuses [name] (withTable before name) := by
  intro members change
  rw [withTable, DraftTable.within, find?_last h]
  simp only [DraftTable.within, set_last h]
  rw [if_neg (by decide), if_neg (by decide), Option.map_eq_bind]
  rfl

/-- The table with a list of tables at the end, if the list has any; the last one comes first. -/
def withElements (members : List (String × Draft)) (key : String)
    (elements : List (List (String × Draft))) : DraftTable :=
  ⟨.header, if elements = [] then members else members ++ [(key, .tables elements)]⟩

section Elements

variable {path : List String} {put : DraftTable → DraftTable} {members : List (String × Draft)}
  {key : String} (hfocus : Focuses path put) (h : List.lookup key members = none)

include hfocus h

theorem focuses_element (elements : List (List (String × Draft))) :
    Focuses (path ++ [key]) fun t => put (withElements members key (t.members :: elements)) := by
  intro inner change
  simp only [within_append]
  rw [withElements, hfocus]
  simp only [withElements, List.cons_ne_nil, if_false, DraftTable.within, find?_last h, set_last h]
  cases change ⟨.header, inner⟩ <;> rfl

/-- A header opens one more table of a list. -/
theorem openElement?_next (elements : List (List (String × Draft))) :
    DraftTable.openElement? path key (put (withElements members key elements)) =
      some (put (withElements members key ([] :: elements))) := by
  rw [DraftTable.openElement?, withElements, hfocus]
  cases elements with
  | nil =>
    simp only [withElements, if_true, DraftTable.find?, h, set_new h, List.cons_ne_nil, if_false,
      Option.map_some]
  | cons element elements =>
    simp only [withElements, List.cons_ne_nil, if_false, find?_last h, set_last h, Option.map_some]

end Elements

/-! ## Lines -/

/-- A key that may stand without quotes. -/
def isBareKey (key : String) : Bool := !key.toList.isEmpty && key.toList.all isKeyChar

theorem isBareKey_iff {key : String} :
    isBareKey key = true ↔ key.toList ≠ [] ∧ key.toList.all isKeyChar = true := by
  rw [isBareKey, Bool.and_eq_true, Bool.not_eq_true', List.isEmpty_eq_false_iff]

/-- Values on their way into a table. -/
def drafts (values : List (String × Value)) : List (String × Draft) :=
  values.map fun (key, v) => (key, .value v)

theorem lookup_drafts (key : String) (values : List (String × Value)) :
    List.lookup key (drafts values) = (List.lookup key values).map .value := by
  induction values with
  | nil => rfl
  | cons entry values ih =>
    obtain ⟨name, v⟩ := entry
    simp only [drafts, List.map_cons, List.lookup_cons] at ih ⊢
    cases key == name with
    | true => rfl
    | false => exact ih

theorem finishMembers_drafts (values : List (String × Value)) :
    finishMembers (drafts values) = values := by
  induction values with
  | nil => rfl
  | cons entry values ih => exact congrArg (entry :: ·) ih

theorem finishMembers_append (members more : List (String × Draft)) :
    finishMembers (members ++ more) = finishMembers members ++ finishMembers more := by
  induction members with
  | nil => rfl
  | cons entry members ih => exact congrArg ((entry.1, entry.2.finish) :: ·) ih

theorem finishElements_eq (elements : List (List (String × Draft))) :
    finishElements elements = elements.map fun members => .table (finishMembers members) := by
  induction elements with
  | nil => rfl
  | cons members elements ih => exact congrArg (.table (finishMembers members) :: ·) ih

/-- A piece that binds keys of the open table, whatever table that is. -/
def Fills (lines : Nat) (piece : List Char) (values : List (String × Value)) : Prop :=
  ∀ ⦃path : List String⦄ ⦃put : DraftTable → DraftTable⦄ ⦃members : List (String × Draft)⦄,
    Focuses path put → (∀ entry ∈ values, List.lookup entry.1 members = none) →
      Takes lines piece ⟨put ⟨.header, members⟩, path⟩
        ⟨put ⟨.header, members ++ drafts values⟩, path⟩

theorem Fills.nil : Fills 0 [] [] := by
  intro path put members _ _
  rw [drafts, List.map_nil, List.append_nil]
  exact Takes.nil _

theorem Fills.append {m n : Nat} {one other : List Char} {values values' : List (String × Value)}
    (h : Fills m one values) (h' : Fills n other values')
    (hdisjoint : ∀ entry ∈ values', List.lookup entry.1 values = none) :
    Fills (n + m) (one ++ other) (values ++ values') := by
  intro path put members hfocus hnew
  rw [drafts, List.map_append, ← List.append_assoc]
  refine (h hfocus fun entry hentry => hnew entry (List.mem_append_left _ hentry)).append
    (h' hfocus fun entry hentry => ?_)
  rw [List.lookup_append, hnew entry (List.mem_append_right _ hentry), lookup_drafts,
    hdisjoint entry hentry]
  rfl

/-- The line of a key, its value written so. -/
def valueLine (key : String) (written : List Char) : List Char :=
  key.toList ++ ' ' :: '=' :: ' ' :: (written ++ ['\n'])

theorem readLines?_valueLine {key : String} (hkey : isBareKey key = true) {written : List Char}
    {v : Option Value} (hstart : written.head?.any startsItem = true)
    (hvalue : ∀ fuel rest, value? (fuel + 2) 0 (written ++ '\n' :: rest) = v.map (·, '\n' :: rest))
    {path : List String} {put : DraftTable → DraftTable} {members : List (String × Draft)}
    (hfocus : Focuses path put) (hnew : List.lookup key members = none) (fuel : Nat)
    (rest : List Char) :
    readLines? (fuel + 1) ⟨put ⟨.header, members⟩, path⟩ (valueLine key written ++ rest) =
      v.bind fun v => readLines? fuel ⟨put ⟨.header, members ++ [(key, .value v)]⟩, path⟩ rest := by
  obtain ⟨hne, hchars⟩ := isBareKey_iff.1 hkey
  have hline := readLines?_binding hne hchars hstart (fun fuel => hvalue fuel rest) fuel
    ⟨put ⟨.header, members⟩, path⟩
  simp only [hfocus members, String.ofList_toList, bind?_new hnew, Option.map_some,
    Option.bind_some] at hline
  rw [← hline, valueLine]
  simp

theorem fills_line {key : String} (hkey : isBareKey key = true) {written : List Char} {v : Value}
    (hstart : written.head?.any startsItem = true)
    (hvalue : ∀ fuel rest, value? (fuel + 2) 0 (written ++ '\n' :: rest) = some (v, '\n' :: rest)) :
    Fills 1 (valueLine key written) [(key, v)] := by
  intro path put members hfocus hnew
  refine ⟨by simp [valueLine]; omega, fun fuel rest => ?_⟩
  rw [readLines?_valueLine (v := some v) hkey hstart hvalue hfocus (hnew _ List.mem_cons_self)]
  rfl

theorem startsItem_quoted (s : List Char) : (quoted s).head?.any startsItem = true := by
  simp only [quoted]
  split_ifs <;> rfl

theorem fills_quoted {key : String} (hkey : isBareKey key = true) (s : String) :
    Fills 1 (valueLine key (quoted s.toList)) [(key, .text s)] := by
  refine fills_line hkey (startsItem_quoted _) fun fuel rest => ?_
  have hquote (quote : Char) (h : '\n' ≠ quote) : ('\n' :: rest).head? ≠ some quote :=
    fun heq => h (Option.some.inj heq)
  have h := value?_quoted (hquote '"' (by decide)) (hquote '\'' (by decide)) (fuel + 1) 0 s.toList
  rwa [String.ofList_toList] at h

theorem fills_texts {bindings : List (String × String)}
    (hkeys : ∀ entry ∈ bindings, isBareKey entry.1 = true) (hnodup : (bindings.map Prod.fst).Nodup) :
    Fills bindings.length (bindings.flatMap fun (key, s) => valueLine key (quoted s.toList))
      (bindings.map fun (key, s) => (key, .text s)) := by
  induction bindings with
  | nil => exact Fills.nil
  | cons entry bindings ih =>
    obtain ⟨key, s⟩ := entry
    rw [List.map_cons, List.nodup_cons] at hnodup
    rw [List.flatMap_cons, List.map_cons, List.length_cons, ← List.singleton_append]
    refine (fills_quoted (hkeys _ List.mem_cons_self) s).append
      (ih (fun entry h => hkeys entry (List.mem_cons_of_mem _ h)) hnodup.2) fun entry hentry => ?_
    obtain ⟨old, hold, rfl⟩ := List.mem_map.1 hentry
    have hne : old.1 ≠ key :=
      ne_of_mem_of_not_mem (List.mem_map_of_mem (f := Prod.fst) hold) hnodup.1
    simp [List.lookup_cons, beq_false_of_ne hne]

theorem fills_emptyList (key : String) (hkey : isBareKey key = true) :
    Fills 1 (valueLine key ['[', ']']) [(key, .list [])] := by
  refine fills_line hkey rfl fun fuel rest => ?_
  rfl

/-! ## Headers -/

def headerLine (name : String) : List Char := '[' :: (name.toList ++ [']', '\n'])

/-- The line that opens one more element of a list in a section. -/
def elementLine (name key : String) : List Char :=
  '[' :: '[' :: (name.toList ++ '.' :: (key.toList ++ [']', ']', '\n']))

section Headers

variable (name : String) (hname : isBareKey name = true)

include hname

theorem header?_table (root : DraftTable) (path : List String) (rest : List Char) :
    header? ⟨root, path⟩ (name.toList ++ ']' :: '\n' :: rest) =
      (root.openTable? [] name).map fun root => (⟨root, [name]⟩, rest) := by
  obtain ⟨hne, hchars⟩ := isBareKey_iff.1 hname
  have hkey := key?_closed hne hchars (name.toList ++ ']' :: '\n' :: rest).length ('\n' :: rest)
  rw [String.ofList_toList] at hkey
  obtain ⟨c, tail, htail⟩ := List.exists_cons_of_ne_nil hne
  have hc : c ≠ '[' := by
    rintro rfl
    rw [htail] at hchars
    exact absurd (List.all_eq_true.1 hchars '[' List.mem_cons_self) (by decide)
  rw [htail] at hkey ⊢
  unfold header?
  split
  rename_i element s heq
  split at heq
  · rename_i h
    exact absurd (List.cons.inj h).1 hc
  · cases heq
    rw [hkey, Option.map_eq_bind]
    rfl

theorem header?_element {key : String} (hkey : isBareKey key = true) (root : DraftTable)
    (path : List String) (rest : List Char) :
    header? ⟨root, path⟩ ('[' :: (name.toList ++ '.' :: (key.toList ++ ']' :: ']' :: '\n' :: rest))) =
      (root.openElement? [name] key).map fun root => (⟨root, [name, key]⟩, rest) := by
  obtain ⟨hne, hchars⟩ := isBareKey_iff.1 hname
  obtain ⟨hne', hchars'⟩ := isBareKey_iff.1 hkey
  generalize hs : name.toList ++ '.' :: (key.toList ++ ']' :: ']' :: '\n' :: rest) = s
  have hlength : s.length = name.toList.length + (key.toList.length + rest.length + 3) + 1 := by
    rw [← hs]
    simp
    omega
  have hparts : key? (s.length + 1) s = some ([name, key], ']' :: ']' :: '\n' :: rest) := by
    rw [hlength, ← hs, key?_dotted hne hchars, ← Nat.add_assoc, key?_closed hne' hchars',
      String.ofList_toList, String.ofList_toList]
    rfl
  unfold header?
  simp only [hparts, Option.bind_eq_bind, Option.bind_some]
  rw [Option.map_eq_bind]
  rfl

theorem takes_header {before : List (String × Draft)} (hnew : List.lookup name before = none)
    (path : List String) :
    Takes 1 (headerLine name) ⟨⟨.header, before⟩, path⟩
      ⟨withTable before name ⟨.header, []⟩, [name]⟩ := by
  refine ⟨by simp [headerLine], fun fuel rest => ?_⟩
  rw [headerLine, List.cons_append, List.append_assoc, List.cons_append, List.cons_append, List.nil_append,
    readLines?_header, header?_table name hname, openTable?_new hnew]
  rfl

theorem takes_elementHeader {key : String} (hkey : isBareKey key = true)
    {put : DraftTable → DraftTable} (hfocus : Focuses [name] put)
    {members : List (String × Draft)} (hnew : List.lookup key members = none)
    (elements : List (List (String × Draft))) (path : List String) :
    Takes 1 (elementLine name key)
      ⟨put (withElements members key elements), path⟩
      ⟨put (withElements members key ([] :: elements)), [name, key]⟩ := by
  refine ⟨by simp [elementLine], fun fuel rest => ?_⟩
  have hheader := header?_element name hname hkey (put (withElements members key elements)) path rest
  rw [openElement?_next hfocus hnew, Option.map_some] at hheader
  have hpiece : elementLine name key ++ rest =
      '[' :: '[' :: (name.toList ++ '.' :: (key.toList ++ ']' :: ']' :: '\n' :: rest)) := by
    simp [elementLine]
  rw [hpiece, readLines?_header, hheader, Option.bind_some]

end Headers

theorem takes_element (name : String) {key : String} (hname : isBareKey name = true)
    (hkey : isBareKey key = true) {put : DraftTable → DraftTable} (hfocus : Focuses [name] put)
    {members : List (String × Draft)} (hnew : List.lookup key members = none) {lines : Nat}
    {piece : List Char} {values : List (String × Value)} (hpiece : Fills lines piece values)
    (elements : List (List (String × Draft))) (path : List String) :
    Takes (lines + 1) (elementLine name key ++ piece)
      ⟨put (withElements members key elements), path⟩
      ⟨put (withElements members key (drafts values :: elements)), [name, key]⟩ :=
  (takes_elementHeader name hname hkey hfocus hnew elements path).append
    (hpiece (focuses_element hfocus hnew elements) fun _ _ => rfl)

theorem takes_section (name : String) (hname : isBareKey name = true)
    {before : List (String × Draft)} (hnew : List.lookup name before = none) {lines : Nat}
    {piece : List Char} {values : List (String × Value)} (hpiece : Fills lines piece values)
    (path : List String) :
    Takes (lines + 1) (headerLine name ++ piece) ⟨⟨.header, before⟩, path⟩
      ⟨withTable before name ⟨.header, drafts values⟩, [name]⟩ :=
  (takes_header name hname hnew path).append (hpiece (focuses_withTable hnew) fun _ _ => rfl)

end LoginGate.Toml
