import LoginGate.Proofs.Settings.Layers

/-!
# Settings in layers
-/

namespace LoginGate.Settings

/-! ## Sources -/

/-- The members of a file; no file has none. -/
def document? : Option String → Option (List (String × Toml.Value))
  | none => some []
  | some text => Toml.read? text

/-- What a file and the environment say together, unless the file cannot be read. -/
def said? (file : Option String) (environment : Environment) : Option Tree :=
  (document? file).map (sources · environment)

theorem load_eq (file : Option String) (environment : Environment) :
    load file environment =
      match (said? file environment).bind Tree.asSettings? with
      | none => .error .unreadable
      | some s => s.check.map fun _ => s := by
  unfold load said?
  cases file with
  | none =>
    simp only [document?, pure_bind, Option.map_some, Option.bind_some]
    cases (sources [] environment).asSettings? <;> rfl
  | some text =>
    simp only [document?]
    cases Toml.read? text with
    | none => rfl
    | some members =>
      simp only [pure_bind, Option.map_some, Option.bind_some]
      cases (sources members environment).asSettings? <;> rfl

theorem load_eq_ok_iff {file : Option String} {environment : Environment} {s : Settings} :
    load file environment = .ok s ↔
      ∃ t, said? file environment = some t ∧ t.asSettings? = some s ∧ s.check = .ok () := by
  rw [load_eq]
  cases ht : said? file environment with
  | none => simp
  | some t =>
    simp only [Option.bind_some, Option.some.injEq, exists_eq_left']
    cases hs : t.asSettings? with
    | none => simp
    | some s' =>
      simp only [Option.some.injEq]
      constructor
      · intro h
        cases hc : s'.check with
        | error e => rw [hc] at h; cases h
        | ok u => rw [hc] at h; exact ⟨Except.ok.inj h, Except.ok.inj h ▸ hc⟩
      · rintro ⟨rfl, hc⟩
        rw [hc]
        rfl

/-- What the members of a file make of a section. -/
def fileSection (name : String) (members : List (String × Toml.Value)) : Option Tree :=
  (membersOf members).foldl (entryIn name) none

theorem sources_eq (members : List (String × Toml.Value)) (environment : Environment) :
    ∃ all, sources members environment = .table all ∧ ∀ name, List.lookup name all =
      (overrides environment).foldl (entryIn name) (fileSection name members) := by
  obtain ⟨file, hfile, hsection⟩ := setAll_table [] (membersOf members)
  obtain ⟨all, hall, h⟩ := setAll_table file (overrides environment)
  refine ⟨all, by rw [sources, hfile, hall], fun name => ?_⟩
  rw [h, hsection]
  rfl

theorem given?_sources (k : Key) (members : List (String × Toml.Value))
    (environment : Environment) : (sources members environment).given? k =
      givenIn? k ((overrides environment).foldl (entryIn k.sectionName)
        (fileSection k.sectionName members)) := by
  obtain ⟨all, hall, h⟩ := sources_eq members environment
  rw [hall, ← h]
  rfl

theorem value?_of_load {file : Option String} {environment : Environment} {s : Settings}
    (h : load file environment = .ok s) : ∃ members, document? file = some members ∧
      ∀ k : Key, k.value? ((sources members environment).given? k) = some (s.get k) := by
  obtain ⟨t, ht, hs, -⟩ := load_eq_ok_iff.1 h
  obtain ⟨members, hmembers, rfl⟩ := Option.map_eq_some_iff.1 ht
  obtain ⟨all, hall, -⟩ := sources_eq members environment
  rw [hall] at hs
  exact ⟨members, hmembers, by rw [hall]; exact (asSettings?_eq_some_iff.1 hs).2⟩

/-! ## Variables -/

/-- The name of a setting with its section, as variables tell it. -/
def Key.path (k : Key) : String := k.sectionName ++ "." ++ k.name

def Key.variableName (k : Key) : String :=
  "AUTHGEN__" ++ k.sectionName.toUpper ++ "__" ++ k.name.toUpper

theorem pathOf_path (k : Key) : pathOf k.path = [.key k.sectionName, .key k.name] := by
  cases k <;> decide +kernel

theorem name_injective : Function.Injective Key.name := by
  intro j k h
  cases j <;> cases k <;> first | rfl | exact absurd h (by decide)

theorem isSingle_of_mem_overrides {environment : Environment} {entry : String × Tree}
    (h : entry ∈ overrides environment) : entry.2.IsSingle := by
  obtain ⟨⟨name, value⟩, -, he⟩ := List.mem_filterMap.1 h
  obtain ⟨setting, -, rfl⟩ := Option.map_eq_some_iff.1 he
  exact isSingle_ofVariable value

theorem overrides_append_cons {name value setting : String} (h : settingName? name = some setting)
    (before after : Environment) : overrides (before ++ (name, value) :: after) =
      overrides before ++ (setting, .ofVariable value) :: overrides after := by
  simp [overrides, h]

theorem entryIn_path (k : Key) (x : Option Tree) {t : Tree} (ht : t.IsSingle) :
    entryIn k.sectionName x (k.path, t) = some (.table (bind k.name t (membersIn x))) := by
  rw [entryIn, pathOf_path]
  simp only [if_true, stepIn, Tree.change, ht.merge]
  rfl

theorem entryIn_path_of_ne {k : Key} {name : String} (h : name ≠ k.sectionName) (x : Option Tree)
    (t : Tree) : entryIn name x (k.path, t) = x := by
  rw [entryIn, pathOf_path]
  exact if_neg h

/-! ## One variable more -/

/-- Do the sources give something for a setting? -/
def gives (file : Option String) (environment : Environment) (k : Key) : Bool :=
  ((said? file environment).bind (Tree.given? k)).isSome

def Tree.isList : Tree → Bool
  | .list _ => true
  | _ => false

/-- Is the section of a setting written as a list of its settings in order? -/
def listsSection (file : Option String) (environment : Environment) (k : Key) : Bool :=
  ((said? file environment).bind fun t => List.lookup k.sectionName t.members).any Tree.isList

variable {file : Option String} {before after environment : Environment} {name value : String}
  {k : Key}

/-- With one more variable, the other settings are given what they were given before. -/
theorem given?_of_ne {members : List (String × Toml.Value)} (hname : settingName? name = some k.path)
    (hlist : (List.lookup k.sectionName (sources members (before ++ after)).members).any
      Tree.isList = false) {j : Key} (hj : j ≠ k) :
    (sources members (before ++ (name, value) :: after)).given? j =
      (sources members (before ++ after)).given? j := by
  have hover : overrides (before ++ after) = overrides before ++ overrides after := by
    simp [overrides]
  rw [given?_sources, given?_sources, overrides_append_cons hname, hover, List.foldl_append,
    List.foldl_append, List.foldl_cons]
  by_cases hs : j.sectionName = k.sectionName
  · have hagree : AgreeBut k.name
        ((overrides after).foldl (entryIn j.sectionName)
          ((overrides before).foldl (entryIn j.sectionName) (fileSection j.sectionName members)))
        ((overrides after).foldl (entryIn j.sectionName) (entryIn j.sectionName
          ((overrides before).foldl (entryIn j.sectionName) (fileSection j.sectionName members))
          (k.path, .ofVariable value))) := by
      refine foldl_entryIn (fun entry he _ _ h => h.entry (isSingle_of_mem_overrides he)) ?_
      rw [hs, entryIn_path k _ (isSingle_ofVariable value)]
      exact .table fun i hi => lookup_bind_of_ne hi _ _
    refine hagree.givenIn?_eq (fun items hitems => ?_) fun h => hj (name_injective h)
    obtain ⟨all, hall, h⟩ := sources_eq members (before ++ after)
    rw [hall, Tree.members, h, hover, List.foldl_append, ← hs, hitems] at hlist
    cases hlist
  · rw [entryIn_path_of_ne hs]

/-- What a variable gives for its setting, and what comes after, does not depend on the file. -/
theorem given?_self (members members' : List (String × Toml.Value))
    (hname : settingName? name = some k.path) :
    (sources members (before ++ (name, value) :: after)).given? k =
      (sources members' (before ++ (name, value) :: after)).given? k := by
  rw [given?_sources, given?_sources, overrides_append_cons hname, List.foldl_append,
    List.foldl_append, List.foldl_cons, List.foldl_cons,
    entryIn_path k _ (isSingle_ofVariable value), entryIn_path k _ (isSingle_ofVariable value)]
  refine SameAt.givenIn?_eq (foldl_entryIn (fun entry he _ _ h =>
    h.entry (isSingle_of_mem_overrides he)) (.tables ?_))
  rw [lookup_bind_self, lookup_bind_self]

/-- What neither the file nor the environment gives, both together do not give. -/
theorem given?_eq_none {members : List (String × Toml.Value)}
    (hfile : (sources members []).given? k = none)
    (henvironment : (sources [] environment).given? k = none) :
    (sources members environment).given? k = none := by
  rw [given?_sources] at *
  refine ComesFrom.givenIn?_eq (foldl_entryIn (R := ComesFrom k _) (fun entry he _ _ h =>
    h.entry (isSingle_of_mem_overrides he)) .base) hfile henvironment

/-- **Settings are layered key by key.**  One more variable changes its own setting only, unless the
section of the setting is a list, whose place it takes.  What it makes of its own setting does not
depend on the file.  And a setting that neither source says anything about has its default. -/
theorem load_layered {s s' : Settings} (hname : settingName? name = some k.path)
    (hs : load file (before ++ after) = .ok s)
    (hs' : load file (before ++ (name, value) :: after) = .ok s') :
    (listsSection file (before ++ after) k = false → ∀ j ≠ k, s'.get j = s.get j) ∧
    (∀ other s₂, load other (before ++ (name, value) :: after) = .ok s₂ → s₂.get k = s'.get k) ∧
    ∀ j, gives file [] j = false → gives none (before ++ after) j = false → s.get j = j.default := by
  obtain ⟨members, hfile, hvalue⟩ := value?_of_load hs
  obtain ⟨members', hfile', hvalue'⟩ := value?_of_load hs'
  obtain rfl := Option.some.inj (hfile.symm.trans hfile')
  have hsaid (environment : Environment) :
      said? file environment = some (sources members environment) := by
    rw [said?, hfile, Option.map_some]
  refine ⟨fun hlist j hj => ?_, fun other s₂ hs₂ => ?_, fun j hj hj' => ?_⟩
  · rw [listsSection, hsaid, Option.bind_some] at hlist
    have h := hvalue' j
    rw [given?_of_ne hname hlist hj, hvalue j] at h
    exact (Option.some.inj h).symm
  · obtain ⟨members₂, -, hvalue₂⟩ := value?_of_load hs₂
    have h := hvalue₂ k
    rw [given?_self members₂ members hname, hvalue' k] at h
    exact (Option.some.inj h).symm
  · rw [gives, hsaid, Option.bind_some, Option.isSome_eq_false_iff, Option.isNone_iff_eq_none] at hj
    rw [gives, Option.isSome_eq_false_iff, Option.isNone_iff_eq_none] at hj'
    have h := hvalue j
    rw [given?_eq_none hj hj'] at h
    exact (Option.some.inj h).symm

/-- A variable for one setting of a section, beside a file that gives another one. -/
theorem load_layered_clientId :
    ∃ s s', load (some "[envoy]\ncluster_name = \"idp\"\n") [("AUTHGEN__LOGGING__LEVEL", "debug")] =
        .ok s ∧
      load (some "[envoy]\ncluster_name = \"idp\"\n")
        [("AUTHGEN__LOGGING__LEVEL", "debug"), ("Authgen__Envoy__Client_Id", "x")] = .ok s' ∧
      (∀ j ≠ Key.clientId, s'.get j = s.get j) ∧ s'.proxy.clientId = "x" ∧
      (∀ other s₂, load other [("AUTHGEN__LOGGING__LEVEL", "debug"),
        ("Authgen__Envoy__Client_Id", "x")] = .ok s₂ → s₂.proxy.clientId = "x") ∧
      s.proxy.credentialsDir = "/etc/istio/config" := by
  have hs : load (some "[envoy]\ncluster_name = \"idp\"\n")
      ([("AUTHGEN__LOGGING__LEVEL", "debug")] ++ []) =
        .ok { proxy := { clusterName := "idp" }, logLevel := "debug" } :=
    eq_ok_of_toOption (by decide +kernel)
  have hs' : load (some "[envoy]\ncluster_name = \"idp\"\n")
      ([("AUTHGEN__LOGGING__LEVEL", "debug")] ++ [("Authgen__Envoy__Client_Id", "x")]) =
        .ok { proxy := { clusterName := "idp", clientId := "x" }, logLevel := "debug" } :=
    eq_ok_of_toOption (by decide +kernel)
  obtain ⟨hother, hself, hdefault⟩ :=
    load_layered (k := .clientId) (by decide +kernel) hs hs'
  exact ⟨_, _, hs, hs', hother (by decide +kernel), rfl, hself,
    hdefault .credentialsDir (by decide +kernel) (by decide +kernel)⟩

/-- A section may be written as a list of its settings.  A variable for one of them takes the place
of the list, and what the list gave is lost. -/
theorem listed_section_lost : ∃ s s',
    load (some "envoy = [\"idp\"]\n") [] = .ok s ∧
    load (some "envoy = [\"idp\"]\n") [(Key.clientId.variableName, "x")] = .ok s' ∧
    s.get .clusterName = "idp" ∧ s'.get .clusterName = "oauth" :=
  ⟨{ proxy := { clusterName := "idp" } }, { proxy := { clientId := "x" } },
    eq_ok_of_toOption (by decide +kernel), eq_ok_of_toOption (by decide +kernel), rfl, rfl⟩

end LoginGate.Settings
