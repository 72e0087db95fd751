import LoginGate.Policy.Write
import LoginGate.Proofs.Policy.Sections

/-!
# Policies written and read back

A policy that comes out of a document has its login parameters and labels in the order of their
keys, and no value in it that is kept as it is written is null (`Normal`).  Such a policy is read
back from what is written of it, so reading a document and writing the policy gives a normal form:

    (∃ v, ofJsonValue v = .ok p) ↔ p.Normal                                 (exists_ofJsonValue_iff)
    ofJsonValue v = .ok p → ofJsonValue p.toJson = .ok p                        (ofJsonValue_toJson)
-/

namespace LoginGate.Policy

open LoginGate.KeyMap

/-- A browser login that comes out of a document. -/
def AutoLogin.Normal (s : AutoLogin) : Prop := s.loginParams.Ascending

def AuthRule.Normal (rule : AuthRule) : Prop := rule.condition ≠ some .null

/-- What a policy that comes out of a document asks for. -/
structure Spec.Normal (s : Spec) : Prop where
  rules : ∀ rule ∈ s.authRules, rule.Normal
  login : ∀ login, s.autoLogin = some login → login.Normal
  labels : s.matchLabels.Ascending
  resources : s.acceptedResources ≠ some .null

def Normal (p : Policy) : Prop := p.spec.Normal

/-! ## What is read is normal -/

section

variable {α : Type} {read : Json → Except ReadFault α}

theorem ascending_of_keyMap {n : Json} {map : KeyMap α} (h : ofJson.keyMap read n = .ok map) :
    map.Ascending := by
  obtain ⟨pairs, -, hfold⟩ := bind_eq_ok_iff.1 h
  refine foldlM_keeps (P := Ascending) (fun pair _ before after hstep hbefore => ?_) hfold
    List.Pairwise.nil
  obtain ⟨key, -, hstep⟩ := bind_eq_ok_iff.1 hstep
  obtain ⟨value, -, hstep⟩ := bind_eq_ok_iff.1 hstep
  exact Except.ok.inj hstep ▸ hbefore.insert

theorem orDefault_eq_ok [Inhabited α] {n : Json} {a : α} (h : ofJson.orDefault read n = .ok a) :
    a = default ∨ read n = .ok a := by
  by_cases hn : n = .null
  · subst hn
    exact Or.inl (Except.ok.inj h).symm
  · exact Or.inr ((orDefault_of_ne_null hn).symm.trans h)

theorem optional_eq_ok {n : Json} {a : Option α} (h : ofJson.optional read n = .ok a) :
    a = none ∨ n ≠ .null ∧ ∃ b, a = some b ∧ read n = .ok b := by
  by_cases hn : n = .null
  · subst hn
    exact Or.inl (Except.ok.inj h).symm
  · rw [optional_of_ne_null hn] at h
    obtain ⟨b, hb, rfl⟩ := map_eq_ok_iff.1 h
    exact Or.inr ⟨hn, b, rfl, hb⟩

theorem readRules_eq_ok {n : Json} {rules : List α} (h : readRules ofJson read n = .ok rules) :
    ∀ rule ∈ rules, ∃ entry, read entry = .ok rule := by
  rw [readRules_eq] at h
  obtain ⟨entries, -, hread⟩ := bind_eq_ok_iff.1 h
  intro rule hrule
  obtain ⟨entry, -, hentry⟩ := exists_of_mem_mapM (eq_ok_of_mapError hread) hrule
  exact ⟨entry, hentry⟩

end

theorem readParameters_eq (n : Json) : readParameters ofJson n =
    ofJson.orDefault (ofJson.keyMap ofJson.value) n >>= scalarTexts := by
  refine bind_congr fun map => ?_
  cases scalarTexts map <;> rfl

theorem map_key_scalarTexts {map : KeyMap Json} {texts : KeyMap String}
    (h : scalarTexts map = .ok texts) : texts.map Prod.fst = map.map Prod.fst := by
  induction map generalizing texts with
  | nil =>
    obtain rfl := Except.ok.inj h
    rfl
  | cons pair map ih =>
    unfold scalarTexts at h ih
    rw [List.mapM_cons] at h
    obtain ⟨text, htext, h⟩ := bind_eq_ok_iff.1 h
    obtain ⟨rest, hrest, h⟩ := bind_eq_ok_iff.1 h
    obtain rfl := Except.ok.inj h
    rw [List.map_cons, List.map_cons, ih hrest]
    split at htext
    · rw [← Except.ok.inj htext]
    · cases htext

theorem ascending_of_readParameters {n : Json} {parameters : KeyMap String}
    (h : readParameters ofJson n = .ok parameters) : parameters.Ascending := by
  rw [readParameters_eq] at h
  obtain ⟨map, hmap, htexts⟩ := bind_eq_ok_iff.1 h
  have hascending : map.Ascending := by
    rcases orDefault_eq_ok hmap with rfl | hmap
    · exact List.Pairwise.nil
    · exact ascending_of_keyMap hmap
  have hkeys := List.pairwise_map.2 hascending
  rw [← map_key_scalarTexts htexts] at hkeys
  exact List.pairwise_map.1 hkeys

/-- What every field of a record keeps holds of the record that is read. -/
theorem record_keeps {σ : Type} {fields : List (JsonField σ)} {empty : σ} {P : σ → Prop}
    (hempty : P empty) (hfields : ∀ f ∈ fields, ∀ n r r', f.2 n r = .ok r' → P r → P r')
    {n : Json} {r : σ} (h : ofJson.record fields empty n = .ok r) : P r := by
  obtain ⟨entries, -, h⟩ := bind_eq_ok_iff.1 h
  obtain ⟨final, hfold, h⟩ := bind_eq_ok_iff.1 h
  obtain rfl := Except.ok.inj h
  refine foldlM_keeps (P := fun state => P state.2) (fun pair _ before after hstep hbefore => ?_)
    hfold hempty
  obtain ⟨name, -, hstep⟩ := bind_eq_ok_iff.1 hstep
  cases hread : fields.lookup name with
  | none =>
    rw [hread] at hstep
    obtain rfl := Except.ok.inj hstep
    exact hbefore
  | some read =>
    obtain ⟨others, rest, rfl, -⟩ := List.lookup_eq_some_iff.1 hread
    rw [hread] at hstep
    dsimp only at hstep
    split at hstep
    · cases hstep
    · obtain ⟨next, hnext, hstep⟩ := bind_eq_ok_iff.1 hstep
      obtain rfl := Except.ok.inj hstep
      exact hfields (name, read) (List.mem_append_right _ List.mem_cons_self) _ _ _ hnext hbefore

theorem optional_value_ne_null {n : Json} {a : Option Json}
    (h : ofJson.optional ofJson.value n = .ok a) : a ≠ some .null := by
  rcases optional_eq_ok h with rfl | ⟨hn, b, rfl, hb⟩
  · exact nofun
  · obtain rfl := Except.ok.inj hb
    exact fun heq => hn (Option.some.inj heq)

theorem AutoLogin.normal_of_read {n : Json} {s : AutoLogin}
    (h : readAutoLogin ofJson n = .ok s) : s.Normal := by
  have hempty : AutoLogin.Normal {} := List.Pairwise.nil
  refine record_keeps (P := AutoLogin.Normal) hempty (fun f hf n s s' hset hs => ?_) h
  simp only [autoLoginFields, List.mem_cons, List.not_mem_nil, or_false] at hf
  rcases hf with rfl | rfl | rfl | rfl | rfl | rfl
  all_goals
    obtain ⟨value, hvalue, hset⟩ := bind_eq_ok_iff.1 hset
    obtain rfl := Except.ok.inj hset
  case inr.inr.inr.inl => exact ascending_of_readParameters hvalue
  all_goals exact hs

theorem AuthRule.normal_of_read {n : Json} {rule : AuthRule} (h : readAuthRule n = .ok rule) :
    rule.Normal := by
  have hempty : AuthRule.Normal ⟨⟨[], []⟩, none⟩ := nofun
  refine record_keeps (P := AuthRule.Normal) hempty (fun f hf n rule rule' hset hrule => ?_) h
  simp only [authRuleFields_eq, List.mem_cons, List.not_mem_nil, or_false] at hf
  rcases hf with rfl | rfl | rfl
  all_goals
    obtain ⟨value, hvalue, hset⟩ := bind_eq_ok_iff.1 hset
    obtain rfl := Except.ok.inj hset
  case inr.inr => exact optional_value_ne_null hvalue
  all_goals exact hrule

theorem ascending_of_readSelector {n : Json} {labels : KeyMap String}
    (h : readSelector ofJson n = .ok labels) : labels.Ascending := by
  refine record_keeps (P := Ascending) List.Pairwise.nil
    (fun f hf n labels labels' hset _ => ?_) h
  simp only [selectorFields, List.mem_cons, List.not_mem_nil, or_false] at hf
  subst hf
  rcases orDefault_eq_ok hset with rfl | hset
  · exact List.Pairwise.nil
  · exact ascending_of_keyMap hset

theorem Spec.normal_of_read {n : Json} {s : Spec} (h : readSpec ofJson n = .ok s) : s.Normal := by
  have hempty : Spec.Normal {} := ⟨nofun, nofun, List.Pairwise.nil, nofun⟩
  refine record_keeps (P := Spec.Normal) hempty
    (fun f hf n s s' hset hs => ?_) h
  simp only [specFields, List.mem_cons, List.not_mem_nil, or_false] at hf
  rcases hf with rfl | rfl | rfl | rfl | rfl | rfl
  all_goals
    obtain ⟨value, hvalue, hset⟩ := bind_eq_ok_iff.1 hset
    obtain rfl := Except.ok.inj hset
  case inr.inr.inl =>
    refine ⟨fun rule hrule => ?_, hs.login, hs.labels, hs.resources⟩
    obtain ⟨entry, hentry⟩ := readRules_eq_ok hvalue rule hrule
    exact AuthRule.normal_of_read hentry
  case inr.inr.inr.inl =>
    refine ⟨hs.rules, fun login hlogin => ?_, hs.labels, hs.resources⟩
    rcases optional_eq_ok hvalue with rfl | ⟨-, read, rfl, hread⟩
    · cases hlogin
    · obtain rfl := Option.some.inj hlogin
      exact AutoLogin.normal_of_read hread
  case inr.inr.inr.inr.inl =>
    refine ⟨hs.rules, hs.login, ?_, hs.resources⟩
    rcases orDefault_eq_ok hvalue with rfl | hvalue
    · exact List.Pairwise.nil
    · exact ascending_of_readSelector hvalue
  case inr.inr.inr.inr.inr =>
    exact ⟨hs.rules, hs.login, hs.labels, optional_value_ne_null hvalue⟩
  all_goals exact ⟨hs.rules, hs.login, hs.labels, hs.resources⟩

/-- A policy that comes out of a document is normal. -/
theorem normal_of_ofJsonValue {v : Json} {p : Policy} (h : ofJsonValue v = .ok p) : p.Normal := by
  have hempty : Policy.Normal {} := ⟨nofun, nofun, List.Pairwise.nil, nofun⟩
  refine record_keeps (P := Policy.Normal) hempty
    (fun f hf n p p' hset hp => ?_) (eq_ok_of_mapError h)
  simp only [policyFields, List.mem_cons, List.not_mem_nil, or_false] at hf
  rcases hf with rfl | rfl | rfl | rfl
  all_goals
    obtain ⟨value, hvalue, hset⟩ := bind_eq_ok_iff.1 hset
    obtain rfl := Except.ok.inj hset
  case inr.inr.inr =>
    rcases orDefault_eq_ok hvalue with rfl | hvalue
    · exact hempty
    · exact Spec.normal_of_read hvalue
  all_goals exact hp

/-! ## What is written is read back -/

section

variable {α : Type} {read : Json → Except ReadFault α} {write : α → Json}

theorem optional_write {a : Option α} (hnull : ∀ b, write b ≠ .null)
    (hread : ∀ b, a = some b → read (write b) = .ok b) :
    ofJson.optional read ((a.map write).getD .null) = .ok a := by
  cases a with
  | none => rfl
  | some b =>
    rw [Option.map_some, Option.getD_some, optional_of_ne_null (hnull b), hread b rfl]
    rfl

theorem texts_write (texts : List String) : ofJson.texts (textList texts) = .ok texts :=
  mapM_map_eq_pure fun _ _ => rfl

theorem readRules_write {rules : List α} (hobject : ∀ rule, (write rule).isObject = true)
    (hread : ∀ rule ∈ rules, read (write rule) = .ok rule) :
    readRules ofJson read (.list (rules.map write)) = .ok rules := by
  have hfilter : (rules.map write).filter Json.isObject = rules.map write :=
    List.filter_eq_self.2 fun _ h => by
      obtain ⟨rule, -, rfl⟩ := List.mem_map.1 h
      exact hobject rule
  refine eq_ok_of_toOption ?_
  rw [readRules_list, hfilter]
  exact mapM_map_eq_pure fun rule hrule => congrArg Except.toOption (hread rule hrule)

/-- A map in the order of its keys is read as it is written. -/
theorem keyMap_write {map : KeyMap α} (h : map.Ascending)
    (hread : ∀ a, read (write a) = .ok a) :
    ofJson.keyMap read (.object (mapValues write map)) = .ok map := by
  have hfold (done rest : KeyMap α) (h : Ascending (done ++ rest)) :
      ((mapValues write rest).map fun m => (Json.text m.1, m.2)).foldlM (fun map pair => do
        let key ← ofJson.text pair.1
        return KeyMap.insert key (← read pair.2) map) done = .ok (done ++ rest) := by
    induction rest generalizing done with
    | nil =>
      rw [List.append_nil]
      rfl
    | cons m rest ih =>
      have hstep : (do
          let key ← ofJson.text (.text m.1)
          return KeyMap.insert key (← read (write m.2)) done) = .ok (done ++ [m]) := by
        rw [hread, ← h.insert_next]
        rfl
      rw [List.append_cons] at h ⊢
      exact bind_eq_ok_iff.2 ⟨_, hstep, ih _ h⟩
  exact hfold [] map h

/-- Login parameters are texts when they are written. -/
theorem readParameters_write {parameters : KeyMap String} (h : parameters.Ascending) :
    readParameters ofJson (.object (mapValues .text parameters)) = .ok parameters := by
  have hmap : ofJson.orDefault (ofJson.keyMap ofJson.value)
      (.object (mapValues .text parameters)) = .ok (mapValues .text parameters) := by
    have hascending : Ascending (mapValues Json.text parameters) := List.pairwise_map.2 h
    have hid : mapValues id (mapValues Json.text parameters) = mapValues .text parameters :=
      List.map_id _
    have hread := @keyMap_write _ ofJson.value id _ hascending fun _ => rfl
    rw [hid] at hread
    exact (orDefault_of_ne_null (by simp)).trans hread
  have htexts : scalarTexts (mapValues .text parameters) = .ok parameters :=
    mapM_map_eq_pure fun _ _ => rfl
  exact (readParameters_eq _).trans (bind_eq_ok_iff.2 ⟨_, hmap, htexts⟩)

end

/-! ## Records -/

section

variable {σ : Type}

theorem fieldValues?_ofMembers (names : List String) {members : List (String × Json)}
    (h : (members.map Prod.fst).Nodup) :
    fieldValues? names (.ofMembers members) = some (names.map (valueOf members)) := by
  have honce : NamesOnce names (ofPairs members) := (ascending_ofPairs members).nodup.filter _
  have hvalues : valueOf (ofPairs members) = valueOf members :=
    funext fun name => by rw [valueOf, valueOf, lookup_ofPairs h]
  rw [fieldValues?, Json.ofMembers, recordMembers?, Option.bind_some, memberValues?,
    if_pos honce, hvalues]

/-- A record is read back from the members that are written of it. -/
theorem record_write {fields : List (JsonField σ)} {empty record : σ}
    {members : List (String × Json)} {values : List Json} (hind : Independent fields empty)
    (hkeys : (members.map Prod.fst).Sublist (fields.map Prod.fst))
    (hvalues : (fields.map Prod.fst).map (valueOf members) = values)
    (hread : takeAll? fields values empty = some record) :
    ofJson.record fields empty (.ofMembers members) = .ok record := by
  refine eq_ok_of_toOption ?_
  rw [record_toOption hind, fieldValues?_ofMembers _ (hind.nodup.sublist hkeys), hvalues]
  exact hread

theorem takeAll?_set {α : Type} {name : String} {read : Json → Except ReadFault α}
    {put : α → σ → σ} {fields : List (JsonField σ)} {value : Json} {values : List Json}
    {record : σ} {a : α} (h : read value = .ok a) :
    takeAll? ((name, fun n record => read n >>= fun a => pure (put a record)) :: fields)
      (value :: values) record = takeAll? fields values (put a record) := by
  have htake : take? (some record)
      ((name, fun n record => read n >>= fun a => pure (put a record)), value) =
      some (put a record) := by
    change (read value >>= fun a => pure (put a record)).toOption = _
    rw [h]
    rfl
  rw [takeAll?, List.zip_cons_cons, List.foldl_cons, htake]
  rfl

theorem lookup_optionalField (name key : String) (value : Option Json) :
    (optionalField name value).lookup key = if key = name then value else none := by
  cases value with
  | none => exact (ite_self none).symm
  | some v =>
    rw [optionalField, List.lookup_cons]
    by_cases h : key = name
    · rw [if_pos h, beq_iff_eq.2 h]
    · rw [if_neg h, beq_eq_false_iff_ne.2 h]
      rfl

theorem optionalField_keys (name : String) (value : Option Json) :
    ((optionalField name value).map Prod.fst).Sublist [name] := by
  cases value with
  | none => exact List.nil_sublist _
  | some _ => exact List.Sublist.refl _

end

theorem orDefault_texts_write (texts : List String) :
    ofJson.orDefault ofJson.texts (textList texts) = .ok texts :=
  (orDefault_of_ne_null (by simp [textList])).trans (texts_write texts)

theorem readMatcher_write (m : Access.Matcher) :
    readMatcher (.ofMembers (matcherMembers m)) = .ok m :=
  record_write Section.matcher.independent (List.Sublist.refl _) rfl
    ((takeAll?_set (orDefault_texts_write m.paths)).trans
      (takeAll?_set (orDefault_texts_write m.methods)))

theorem optional_text_write (a : Option String) :
    ofJson.optional ofJson.text ((a.map .text).getD .null) = .ok a :=
  optional_write (fun _ => nofun) fun _ _ => rfl

/-- A value that is kept as it is written is read back unless it is null. -/
theorem optional_value_write {a : Option Json} (h : a ≠ some .null) :
    ofJson.optional ofJson.value (a.getD .null) = .ok a := by
  cases a with
  | none => rfl
  | some v => exact optional_of_ne_null fun hv => h (congrArg some hv)

theorem AuthRule.read_toJson {rule : AuthRule} (h : rule.Normal) :
    readAuthRule rule.toJson = .ok rule := by
  have hkeys := (List.Sublist.refl ["paths", "methods"]).append
    (optionalField_keys "when" rule.condition)
  have hread : takeAll? authRuleFields [textList rule.matcher.paths, textList rule.matcher.methods,
      rule.condition.getD .null] ⟨⟨[], []⟩, none⟩ = some rule := by
    rw [authRuleFields_eq]
    exact (takeAll?_set (orDefault_texts_write rule.matcher.paths)).trans
      ((takeAll?_set (orDefault_texts_write rule.matcher.methods)).trans
      (takeAll?_set (optional_value_write h)))
  refine record_write Section.authRule.independent ?_ ?_ hread
  · rw [List.map_append]
    exact hkeys
  · simp [authRuleFields_eq, valueOf, matcherMembers, List.lookup_cons, lookup_optionalField]

theorem AutoLogin.read_toJson {s : AutoLogin} (h : s.Normal) :
    readAutoLogin ofJson s.toJson = .ok s := by
  have hscopes : ofJson.optional ofJson.texts ((s.scopes.map textList).getD .null) =
      .ok s.scopes :=
    optional_write (fun _ => nofun) fun scopes _ => texts_write scopes
  have hkeys := (((((optionalField_keys "loginPath" (s.loginPath.map .text)).append
    (optionalField_keys "redirectPath" (s.redirectPath.map .text))).append
    (optionalField_keys "logoutPath" (s.logoutPath.map .text))).append
    (List.Sublist.refl ["loginParams"])).append
    (optionalField_keys "postLogoutRedirectUri" (s.postLogoutRedirectURI.map .text))).append
    (optionalField_keys "scopes" (s.scopes.map textList))
  have hread : takeAll? (autoLoginFields ofJson) [(s.loginPath.map .text).getD .null,
      (s.redirectPath.map .text).getD .null, (s.logoutPath.map .text).getD .null,
      .object (mapValues .text s.loginParams), (s.postLogoutRedirectURI.map .text).getD .null,
      (s.scopes.map textList).getD .null] {} = some s :=
    (takeAll?_set (optional_text_write s.loginPath)).trans
      ((takeAll?_set (optional_text_write s.redirectPath)).trans
      ((takeAll?_set (optional_text_write s.logoutPath)).trans
      ((takeAll?_set (readParameters_write h)).trans
      ((takeAll?_set (optional_text_write s.postLogoutRedirectURI)).trans
      (takeAll?_set hscopes)))))
  refine record_write Section.autoLogin.independent ?_ ?_ hread
  · simp only [List.map_append]
    exact hkeys
  · simp [autoLoginFields, valueOf, List.lookup_append, List.lookup_cons, lookup_optionalField]

theorem readSelector_write {labels : KeyMap String} (h : labels.Ascending) :
    readSelector ofJson (.ofMembers [("matchLabels", .object (mapValues .text labels))]) =
      .ok labels := by
  have hlabels : ofJson.orDefault (ofJson.keyMap ofJson.text)
      (.object (mapValues .text labels)) = .ok labels :=
    (orDefault_of_ne_null (by simp)).trans (keyMap_write h fun _ => rfl)
  refine record_write Section.selector.independent (List.Sublist.refl _) rfl ?_
  exact congrArg Except.toOption hlabels

theorem Spec.read_toJson {s : Spec} (h : s.Normal) : readSpec ofJson s.toJson = .ok s := by
  have huri : ofJson.orDefault ofJson.text (.text s.wellKnownURI) = .ok s.wellKnownURI := rfl
  have hignore := readRules_write (fun _ => rfl) fun (m : Access.Matcher) (_ : m ∈ s.ignoreRules) =>
    readMatcher_write m
  have hrules := readRules_write (fun _ => rfl) fun rule hrule =>
    AuthRule.read_toJson (h.rules rule hrule)
  have hlogin : ofJson.optional (readAutoLogin ofJson)
      ((s.autoLogin.map AutoLogin.toJson).getD .null) = .ok s.autoLogin :=
    optional_write (fun _ => nofun) fun login hlogin => AutoLogin.read_toJson (h.login login hlogin)
  have hselector : ofJson.orDefault (readSelector ofJson)
      (.ofMembers [("matchLabels", .object (mapValues .text s.matchLabels))]) =
        .ok s.matchLabels :=
    (orDefault_of_ne_null (by simp [Json.ofMembers])).trans (readSelector_write h.labels)
  have hkeys := (((List.Sublist.refl ["wellKnownURI", "ignoreAuthRules", "authRules"]).append
    (optionalField_keys "autoLogin" (s.autoLogin.map AutoLogin.toJson))).append
    (List.Sublist.refl ["selector"])).append
    (optionalField_keys "acceptedResources" s.acceptedResources)
  have hread : takeAll? (specFields ofJson) [.text s.wellKnownURI,
      .list (s.ignoreRules.map fun m => .ofMembers (matcherMembers m)),
      .list (s.authRules.map AuthRule.toJson), (s.autoLogin.map AutoLogin.toJson).getD .null,
      .ofMembers [("matchLabels", .object (mapValues .text s.matchLabels))],
      s.acceptedResources.getD .null] {} = some s :=
    (takeAll?_set huri).trans ((takeAll?_set hignore).trans ((takeAll?_set hrules).trans
      ((takeAll?_set hlogin).trans ((takeAll?_set hselector).trans
      (takeAll?_set (optional_value_write h.resources))))))
  refine record_write Section.spec.independent ?_ ?_ hread
  · simp only [List.map_append]
    exact hkeys
  · simp [specFields, valueOf, List.lookup_append, List.lookup_cons, lookup_optionalField]

theorem Metadata.read_toJson (m : Metadata) : readMetadata ofJson m.toJson = .ok m := by
  have hkeys := (optionalField_keys "name" (m.name.map .text)).append
    (optionalField_keys "namespace" (m.namespaceName.map .text))
  have hread : takeAll? (metadataFields ofJson) [(m.name.map .text).getD .null,
      (m.namespaceName.map .text).getD .null] {} = some m :=
    (takeAll?_set (optional_text_write m.name)).trans
      (takeAll?_set (optional_text_write m.namespaceName))
  refine record_write Section.metadata.independent ?_ ?_ hread
  · rw [List.map_append]
    exact hkeys
  · simp [metadataFields, valueOf, List.lookup_append, lookup_optionalField]

/-- A normal policy is read back from what is written of it. -/
theorem ofJsonValue_toJson_of_normal {p : Policy} (h : p.Normal) :
    ofJsonValue p.toJson = .ok p := by
  have hmetadata : ofJson.orDefault (readMetadata ofJson) p.metadata.toJson = .ok p.metadata :=
    (orDefault_of_ne_null (by simp [Metadata.toJson, Json.ofMembers])).trans p.metadata.read_toJson
  have hspec : ofJson.orDefault (readSpec ofJson) p.spec.toJson = .ok p.spec :=
    (orDefault_of_ne_null (by simp [Spec.toJson, Json.ofMembers])).trans (Spec.read_toJson h)
  have hkeys := ((optionalField_keys "apiVersion" (p.apiVersion.map .text)).append
    (optionalField_keys "kind" (p.kind.map .text))).append
    (List.Sublist.refl ["metadata", "spec"])
  have hread : takeAll? (policyFields ofJson) [(p.apiVersion.map .text).getD .null,
      (p.kind.map .text).getD .null, p.metadata.toJson, p.spec.toJson] {} = some p :=
    (takeAll?_set (optional_text_write p.apiVersion)).trans
      ((takeAll?_set (optional_text_write p.kind)).trans
      ((takeAll?_set hmetadata).trans (takeAll?_set hspec)))
  have hpolicy : read ofJson p.toJson = .ok p := by
    refine record_write Section.policy.independent ?_ ?_ hread
    · simp only [List.map_append]
      exact hkeys
    · simp [policyFields, valueOf, List.lookup_append, List.lookup_cons, lookup_optionalField]
  rw [ofJsonValue, hpolicy]
  rfl

/-- The policies that come out of documents are the normal ones. -/
theorem exists_ofJsonValue_iff {p : Policy} : (∃ v, ofJsonValue v = .ok p) ↔ p.Normal :=
  ⟨fun ⟨_, h⟩ => normal_of_ofJsonValue h, fun h => ⟨p.toJson, ofJsonValue_toJson_of_normal h⟩⟩

/-- **Reading a policy gives a normal form.**  What is written of a policy that came out of a
document is read as the same policy. -/
theorem ofJsonValue_toJson {v : Json} {p : Policy} (h : ofJsonValue v = .ok p) :
    ofJsonValue p.toJson = .ok p :=
  ofJsonValue_toJson_of_normal (normal_of_ofJsonValue h)

/-- A document with metadata given as a list, an entry that is no rule, a null condition, and login
parameters that are no texts. -/
def looseDocument : Json :=
  .object [("metadata", .list [.text "app"]), ("spec", .object [
    ("authRules", .list [.text "/b", .object [("paths", .list [.text "/a"]), ("when", .null)]]),
    ("autoLogin", .object [("loginParams", .object [
      ("prompt", .null), ("max_age", .ofNat 60)])])])]

def loosePolicy : Policy where
  metadata := { name := some "app" }
  spec := {
    authRules := [⟨⟨["/a"], []⟩, none⟩]
    autoLogin := some { loginParams := [("max_age", "60"), ("prompt", "")] } }

theorem ofJsonValue_toJson_loose : ofJsonValue looseDocument = .ok loosePolicy ∧
    ofJsonValue loosePolicy.toJson = .ok loosePolicy := by
  have hread : ofJsonValue looseDocument = .ok loosePolicy := by rfl
  exact ⟨hread, ofJsonValue_toJson hread⟩

end LoginGate.Policy
