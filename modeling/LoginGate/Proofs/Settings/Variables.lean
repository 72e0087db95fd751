import LoginGate.Proofs.Settings.Document
import LoginGate.Proofs.Settings.Layering

/-!
# Variables instead of lines of a file

A variable for a setting that is a text stands for a text in the settings file, though not always
for its own: `takenAs` writes a truth value in small letters and a number in its plainest form, and
keeps any other text (`load_variable`).
-/

namespace LoginGate.Settings

open LoginGate.Text LoginGate.Number LoginGate.Toml

/-! ## Texts that variables stand for -/

/-- The text that a variable stands for where a text is wanted. -/
def takenAs (value : String) : String :=
  let word := lowerAscii value.toList
  if word = "true".toList then "true"
  else if word = "false".toList then "false"
  else match whole? value.toList with
    | some z => if z < 0 then "-" ++ z.natAbs.repr else z.natAbs.repr
    | none => match readDecimal? value.toList with
      | some x => String.ofList x.plainText
      | none => value

theorem asText?_ofVariable (value : String) :
    (Tree.ofVariable value).asText? = some (takenAs value) := by
  simp only [Tree.ofVariable, takenAs]
  split_ifs
  · rfl
  · rfl
  · cases whole? value.toList with
    | some z => rfl
    | none => cases readDecimal? value.toList <;> rfl

/-- Is the text a truth value or a number? -/
def isTyped (value : String) : Bool :=
  lowerAscii value.toList ∈ ["true".toList, "false".toList] || (whole? value.toList).isSome ||
    (readDecimal? value.toList).isSome

/-- Any other text is taken as it is. -/
theorem takenAs_of_not_isTyped {value : String} (h : isTyped value = false) :
    takenAs value = value := by
  simp only [isTyped, Bool.or_eq_false_iff, decide_eq_false_iff_not, List.mem_cons,
    List.not_mem_nil, or_false, not_or, Option.isSome_eq_false_iff, Option.isNone_iff_eq_none] at h
  obtain ⟨⟨⟨htrue, hfalse⟩, hwhole⟩, hreal⟩ := h
  simp only [takenAs, if_neg htrue, if_neg hfalse, hwhole, hreal]

/-! ## Settings that are texts -/

/-- The value of a setting that is a text. -/
def text? (s : Settings) : Key → Option String
  | .clusterName => some s.proxy.clusterName
  | .clientId => some s.proxy.clientId
  | .hmacSecretPath => some s.proxy.hmacSecretPath
  | .tokenSecretPath => some s.proxy.tokenSecretPath
  | .credentialsDir => some s.proxy.credentialsDir
  | .userAgent => some s.discovery.userAgent
  | .logLevel => some s.logLevel
  | _ => none

def Key.isText (k : Key) : Bool := (({} : Settings).text? k).isSome

/-- Settings that are texts are the same for trees with the same text. -/
theorem value?_of_asText? {k : Key} (hk : k.isText = true) {t t' : Tree}
    (h : t.asText? = t'.asText?) : k.value? (some t) = k.value? (some t') := by
  cases k <;> first | exact h | cases hk

theorem text?_of_value? {k : Key} (hk : k.isText = true) {t : Tree} {text : String}
    (ht : t.asText? = some text) {s : Settings} (h : k.value? (some t) = some (s.get k)) :
    s.text? k = some text := by
  cases k <;> first | exact h.symm.trans ht | cases hk

/-! ## Other entries -/

/-- Does a path lead to a setting, through it, or to its section as a whole? -/
def Key.concernedBy (k : Key) : List Step → Bool
  | [.key a] => a = k.sectionName
  | .key a :: .key b :: _ => a = k.sectionName && b = k.name
  | .key a :: .index _ :: _ => a = k.sectionName
  | _ => false

/-- An entry that does not concern a setting binds another key of its section, if anything. -/
theorem entryIn_of_not_concernedBy {k : Key} {entry : String × Tree}
    (h : k.concernedBy (pathOf entry.1) = false) :
    (∀ x, entryIn k.sectionName x entry = x) ∨
      ∃ key ≠ k.name, ∃ f : Tree → Tree, ∀ x, entryIn k.sectionName x entry =
        some (.table (bind key (f (lookup key (membersIn x))) (membersIn x))) := by
  obtain ⟨a, rest, hp⟩ := pathOf_eq entry.1
  by_cases ha : k.sectionName = a
  · subst ha
    match rest with
    | [] => simp [hp, Key.concernedBy] at h
    | .index position :: rest => simp [hp, Key.concernedBy] at h
    | .key key :: rest =>
      refine Or.inr ⟨key, ?_, fun t => t.change entry.2.merge rest, fun x => ?_⟩
      · simpa [hp, Key.concernedBy] using h
      · rw [entryIn, hp]
        exact if_pos rfl
  · refine Or.inl fun x => ?_
    rw [entryIn, hp]
    exact if_neg ha

/-- The section is a table that binds a setting so. -/
def Holds (k : Key) (t : Tree) (x : Option Tree) : Prop :=
  ∃ members, x = some (.table members) ∧ List.lookup k.name members = some t

/-- The sections bind all other keys alike. -/
def OthersAgree (k : Key) (x x' : Option Tree) : Prop :=
  ∀ j ≠ k.name, List.lookup j (membersIn x) = List.lookup j (membersIn x')

/-- No variable is about a setting, a part of it, or its section as a whole. -/
def Unconcerned (k : Key) (environment : Environment) : Prop :=
  ∀ entry ∈ overrides environment, k.concernedBy (pathOf entry.1) = false

instance (k : Key) (environment : Environment) : Decidable (Unconcerned k environment) :=
  inferInstanceAs (Decidable (∀ entry ∈ overrides environment, _))

section Others

variable {k : Key} {entries : List (String × Tree)}
  (hentries : ∀ entry ∈ entries, k.concernedBy (pathOf entry.1) = false)

include hentries

theorem Holds.foldl {t : Tree} {x : Option Tree} (h : Holds k t x) :
    Holds k t (entries.foldl (entryIn k.sectionName) x) := by
  induction entries generalizing x with
  | nil => exact h
  | cons entry entries ih =>
    refine ih (fun e he => hentries e (List.mem_cons_of_mem _ he)) ?_
    obtain hkeep | ⟨key, hkey, f, hbind⟩ :=
      entryIn_of_not_concernedBy (hentries entry List.mem_cons_self)
    · rwa [hkeep]
    · obtain ⟨members, rfl, hlookup⟩ := h
      exact ⟨_, hbind _, by rw [lookup_bind_of_ne hkey.symm, membersIn_table, hlookup]⟩

theorem OthersAgree.foldl {x x' : Option Tree} (h : OthersAgree k x x') :
    OthersAgree k (entries.foldl (entryIn k.sectionName) x)
      (entries.foldl (entryIn k.sectionName) x') := by
  refine foldl_entryIn (fun entry hentry x x' hx => ?_) h
  obtain hkeep | ⟨key, hkey, f, hbind⟩ := entryIn_of_not_concernedBy (hentries entry hentry)
  · rwa [hkeep, hkeep]
  · intro j hj
    rw [hbind, hbind, membersIn_table, membersIn_table, lookup_bind, lookup_bind, hx j hj]
    by_cases hjk : j = key
    · rw [if_pos hjk, if_pos hjk, lookup, lookup, hx key hkey]
    · rw [if_neg hjk, if_neg hjk]

end Others

/-! ## Files that give a text more -/

/-- The second file gives what the first one gives, and a text for one setting. -/
def GivesText (k : Key) (text : String) (file file' : Option String) : Prop :=
  said? file' [] = (said? file []).map fun t =>
    t.set [.key k.sectionName, .key k.name] (.text text)

/-- The lines of a file that gives a text for one setting. -/
def textSection (k : Key) (text : String) : String :=
  "[" ++ k.sectionName ++ "]\n" ++ textLine k.name text

theorem isBareKey_sectionName (k : Key) : isBareKey k.sectionName = true := by
  cases k <;> decide

theorem isBareKey_name (k : Key) : isBareKey k.name = true := by
  cases k <;> decide

theorem read?_textSection (k : Key) (text : String) :
    read? (textSection k text) = some [(k.sectionName, .table [(k.name, .text text)])] := by
  have hsection : Takes (1 + 1) (headerLine k.sectionName ++ textLines [(k.name, text)]) {} _ :=
    takes_textSection k.sectionName k.name (isBareKey_sectionName k) (isBareKey_name k) rfl text []
  have hmark : (headerLine k.sectionName ++ textLines [(k.name, text)]).head?.any (· != '\uFEFF') =
      true := rfl
  have hlines : textSection k text =
      String.ofList (headerLine k.sectionName ++ textLines [(k.name, text)]) := by
    rw [← String.toList_inj, String.toList_ofList]
    simp [textSection, toList_textLine, textLines, headerLine]
  rw [hlines, read?_of_takes hsection hmark]
  rfl

theorem givesText_textSection (k : Key) (text : String) :
    GivesText k text none (some (textSection k text)) := by
  have hplain : pathOf k.sectionName = [.key k.sectionName] := by
    cases k <;> decide +kernel
  rw [GivesText, said?, said?, document?, document?, read?_textSection]
  simp only [Option.map_some, sources, membersOf, Tree.ofValue, Tree.setAll, List.foldl_cons,
    List.foldl_nil, hplain]
  rfl

/-! ## Variables -/

theorem asSettings?_congr {members members' : List (String × Tree)}
    (hsection : ∀ k : Key, (∀ t ∈ List.lookup k.sectionName members, t.section?.isSome) ↔
      ∀ t ∈ List.lookup k.sectionName members', t.section?.isSome)
    (hvalue : ∀ k : Key, k.value? ((Tree.table members).given? k) =
      k.value? ((Tree.table members').given? k)) :
    (Tree.table members).asSettings? = (Tree.table members').asSettings? := by
  refine Option.ext fun s => ?_
  rw [asSettings?_eq_some_iff, asSettings?_eq_some_iff]
  exact and_congr (forall_congr' hsection) (forall_congr' fun k => by rw [hvalue k])

/-- What a file that gives a text more makes of a section. -/
theorem fileSection_of_set {k : Key} {text : String} {members members' : List (String × Toml.Value)}
    (h : sources members' [] = (sources members []).set (pathOf k.path) (.text text))
    (name : String) :
    fileSection name members' = entryIn name (fileSection name members) (k.path, .text text) := by
  obtain ⟨one, hone, hlookup⟩ := sources_eq members []
  obtain ⟨other, hother, hlookup'⟩ := sources_eq members' []
  obtain ⟨set, hset, hentry⟩ := set_table one (k.path, .text text)
  rw [hone, hother, hset] at h
  obtain rfl := Tree.table.inj h
  exact (hlookup' name).symm.trans ((hentry name).trans (by rw [hlookup]; rfl))

theorem entryIn_path_holds (k : Key) (x : Option Tree) {t : Tree} (ht : t.IsSingle) :
    Holds k t (entryIn k.sectionName x (k.path, t)) :=
  ⟨_, entryIn_path k x ht, lookup_bind_self k.name t (membersIn x)⟩

theorem entryIn_path_agrees (k : Key) (x : Option Tree) {t : Tree} (ht : t.IsSingle) :
    OthersAgree k x (entryIn k.sectionName x (k.path, t)) := by
  intro j hj
  rw [entryIn_path k x ht, membersIn_table, lookup_bind_of_ne hj]

section OneVariable

variable {k : Key} {before after : Environment} {name value : String}
  {members members' : List (String × Toml.Value)}

/-- The sections of the two trees: one with the variable, one with the text in the file instead. -/
theorem sections_variable (hname : settingName? name = some k.path)
    (hbefore : Unconcerned k before) (hafter : Unconcerned k after)
    (hfile : sources members' [] =
      (sources members []).set (pathOf k.path) (.text (takenAs value))) :
    ∃ all all', sources members (before ++ (name, value) :: after) = .table all ∧
      sources members' (before ++ after) = .table all' ∧
      (∀ n ≠ k.sectionName, List.lookup n all = List.lookup n all') ∧
      Holds k (.ofVariable value) (List.lookup k.sectionName all) ∧
      Holds k (.text (takenAs value)) (List.lookup k.sectionName all') ∧
      OthersAgree k (List.lookup k.sectionName all) (List.lookup k.sectionName all') := by
  obtain ⟨all, hall, hlookup⟩ := sources_eq members (before ++ (name, value) :: after)
  obtain ⟨all', hall', hlookup'⟩ := sources_eq members' (before ++ after)
  have hover : overrides (before ++ after) = overrides before ++ overrides after := by
    simp [overrides]
  have hboth : ∀ entry ∈ overrides before ++ overrides after,
      k.concernedBy (pathOf entry.1) = false := fun entry hentry =>
    (List.mem_append.1 hentry).elim (hbefore entry) (hafter entry)
  have hsingle : (Tree.text (takenAs value)).IsSingle := fun _ => by simp
  simp only [overrides_append_cons hname, List.foldl_append, List.foldl_cons] at hlookup
  simp only [hover, fileSection_of_set hfile] at hlookup'
  refine ⟨all, all', hall, hall', fun n hn => ?_, ?_, ?_, ?_⟩
  · rw [hlookup, hlookup', List.foldl_append, entryIn_path_of_ne hn, entryIn_path_of_ne hn]
  · rw [hlookup]
    exact (entryIn_path_holds k _ (isSingle_ofVariable value)).foldl hafter
  · rw [hlookup']
    exact (entryIn_path_holds k _ hsingle).foldl hboth
  · rw [hlookup, hlookup', List.foldl_append]
    refine OthersAgree.foldl hafter fun j hj => ?_
    have hset := entryIn_path_agrees k ((overrides before).foldl (entryIn k.sectionName)
      (fileSection k.sectionName members)) (isSingle_ofVariable value) j hj
    have hfileset := (entryIn_path_agrees k (fileSection k.sectionName members) hsingle).foldl
      hbefore j hj
    rw [← hset, hfileset]

/-- The two trees are read as the same settings. -/
theorem asSettings?_variable (hk : k.isText = true) (hname : settingName? name = some k.path)
    (hbefore : Unconcerned k before) (hafter : Unconcerned k after)
    (hfile : sources members' [] =
      (sources members []).set (pathOf k.path) (.text (takenAs value))) :
    (sources members (before ++ (name, value) :: after)).asSettings? =
      (sources members' (before ++ after)).asSettings? := by
  obtain ⟨all, all', hall, hall', hother, ⟨own, hown, hvalue⟩, ⟨own', hown', hvalue'⟩, hagree⟩ :=
    sections_variable hname hbefore hafter hfile
  have hgiven (j : Key) (x : List (String × Tree)) :
      (Tree.table x).given? j = givenIn? j (List.lookup j.sectionName x) := rfl
  rw [hall, hall']
  refine asSettings?_congr (fun j => ?_) fun j => ?_
  · by_cases hj : j.sectionName = k.sectionName
    · rw [hj, hown, hown']
      exact iff_of_true (fun t ht => Option.some.inj ht ▸ rfl) fun t ht => Option.some.inj ht ▸ rfl
    · rw [hother _ hj]
  · rw [hgiven, hgiven]
    by_cases hj : j.sectionName = k.sectionName
    · rw [hj, hown, hown', givenIn?_of_table, givenIn?_of_table]
      by_cases hjk : j = k
      · subst hjk
        rw [hvalue, hvalue']
        exact value?_of_asText? hk (asText?_ofVariable value)
      · have h := hagree j.name fun h => hjk (name_injective h)
        rw [hown, hown', membersIn_table, membersIn_table] at h
        rw [h]
    · rw [hother _ hj]

end OneVariable

/-- Where a file gives a text more, both files are read or neither is. -/
theorem GivesText.cases {k : Key} {text : String} {file file' : Option String}
    (h : GivesText k text file file') :
    (document? file = none ∧ document? file' = none) ∨
      ∃ members members', document? file = some members ∧ document? file' = some members' ∧
        sources members' [] = (sources members []).set (pathOf k.path) (.text text) := by
  rw [GivesText, said?, said?, ← pathOf_path] at h
  cases hfile : document? file with
  | none =>
    rw [hfile, Option.map_none, Option.map_none, Option.map_eq_none_iff] at h
    exact Or.inl ⟨rfl, h⟩
  | some members =>
    rw [hfile, Option.map_some, Option.map_some, Option.map_eq_some_iff] at h
    obtain ⟨members', hmembers', heq⟩ := h
    exact Or.inr ⟨members, members', rfl, hmembers', heq⟩

/-- **A variable stands for a text in the settings file.**  For a setting that is a text, a variable
has the effect of a file that gives the text which the value is taken as; that is the value itself,
unless the value is a truth value or a number. -/
theorem load_variable {k : Key} (hk : k.isText = true) {file file' : Option String}
    {before after : Environment} {name value : String} (hname : settingName? name = some k.path)
    (hbefore : Unconcerned k before) (hafter : Unconcerned k after)
    (hfile : GivesText k (takenAs value) file file') :
    load file (before ++ (name, value) :: after) = load file' (before ++ after) ∧
      load none [(name, value)] = load (some (textSection k (takenAs value))) [] ∧
      (∀ s, load file (before ++ (name, value) :: after) = .ok s →
        s.text? k = some (takenAs value)) ∧
      (isTyped value = false → takenAs value = value) := by
  have hload {file file' : Option String} {before after : Environment}
      (hbefore : Unconcerned k before) (hafter : Unconcerned k after)
      (hfile : GivesText k (takenAs value) file file') :
      load file (before ++ (name, value) :: after) = load file' (before ++ after) := by
    rw [load_eq, load_eq, said?, said?]
    obtain ⟨hnone, hnone'⟩ | ⟨members, members', hmembers, hmembers', hset⟩ := hfile.cases
    · rw [hnone, hnone']
      rfl
    · rw [hmembers, hmembers', Option.map_some, Option.map_some, Option.bind_some,
        Option.bind_some, asSettings?_variable hk hname hbefore hafter hset]
  have hnone : Unconcerned k [] := fun entry hentry => by cases hentry
  refine ⟨hload hbefore hafter hfile,
    hload hnone hnone (givesText_textSection k (takenAs value)), fun s hs => ?_,
    takenAs_of_not_isTyped⟩
  obtain ⟨members, hmembers, hvalue⟩ := value?_of_load hs
  obtain ⟨habsent, -⟩ | ⟨_, members', hsame, -, hset⟩ := hfile.cases
  · rw [habsent] at hmembers
    cases hmembers
  · obtain rfl := Option.some.inj (hsame.symm.trans hmembers)
    obtain ⟨all, _, hall, -, -, ⟨own, hown, hlookup⟩, -⟩ :=
      sections_variable hname hbefore hafter hset
    have hgiven : (Tree.table all).given? k = some (.ofVariable value) := by
      rw [← hlookup, ← givenIn?_of_table, ← hown]
      rfl
    have h := hvalue k
    rw [hall, hgiven] at h
    exact text?_of_value? hk (asText?_ofVariable value) h

/-- A variable that is written as a truth value. -/
theorem load_variable_userAgent :
    load none [("AUTHGEN__LOGGING__LEVEL", "debug"), ("authgen__discovery__user_agent", "TRUE")] =
      load (some (textSection .userAgent "true")) [("AUTHGEN__LOGGING__LEVEL", "debug")] ∧
    load none [("authgen__discovery__user_agent", "TRUE")] =
      load (some (textSection .userAgent "true")) [] := by
  have htaken : takenAs "TRUE" = "true" := by decide +kernel
  have hname : settingName? "authgen__discovery__user_agent" = some Key.userAgent.path := by
    decide +kernel
  have hbefore : Unconcerned .userAgent [("AUTHGEN__LOGGING__LEVEL", "debug")] := by
    decide +kernel
  have hafter : Unconcerned .userAgent [] := by decide
  have hfile := givesText_textSection .userAgent (takenAs "TRUE")
  have h := load_variable (k := .userAgent) rfl hname hbefore hafter hfile
  rw [htaken] at h
  exact ⟨h.1, h.2.1⟩

/-- A number is not taken as it is written. -/
theorem clientId_not_as_written : ∃ s s',
    load none [(Key.clientId.variableName, "007")] = .ok s ∧
    load (some "[envoy]\nclient_id = \"007\"\n") [] = .ok s' ∧
    s.proxy.clientId = "7" ∧ s'.proxy.clientId = "007" :=
  ⟨{ proxy := { clientId := "7" } }, { proxy := { clientId := "007" } },
    eq_ok_of_toOption (by decide +kernel), eq_ok_of_toOption (by decide +kernel), rfl, rfl⟩

end LoginGate.Settings
