import LoginGate.Proofs.Settings.Document
import LoginGate.Proofs.Settings.Layering
import LoginGate.Proofs.Time.Written

/-!
# Settings that are shown and loaded again

    load file environment = .ok s  →  load (some s.document) [] = .ok s              (load_document)

where the document can hold the size of `s`.  The document is read as `Settings.values`, they merge
into an empty tree as they are (`sources_values`), and each setting takes its value from there.
-/

namespace LoginGate.Settings

open LoginGate.Text LoginGate.Toml

/-! ## Merging into nothing -/

/-- A tree that nothing changes when it is merged into nothing. -/
def Tree.IsWhole (t : Tree) : Prop := t.merge .absent = t

theorem Tree.IsSingle.isWhole {t : Tree} (h : t.IsSingle) : t.IsWhole := h.merge .absent

theorem bind_new {key : String} {members : List (String × Tree)} (h : key ∉ members.map Prod.fst)
    (t : Tree) : bind key t members = members ++ [(key, t)] := by
  induction members with
  | nil => rfl
  | cons entry members ih =>
    rw [List.map_cons, List.mem_cons, not_or] at h
    rw [bind, if_neg (Ne.symm h.1), ih h.2, List.cons_append]

theorem lookup_new {key : String} {members : List (String × Tree)}
    (h : key ∉ members.map Prod.fst) : lookup key members = .absent := by
  have hnone : List.lookup key members = none := by
    rw [List.lookup_eq_none_iff]
    intro entry hentry
    exact bne_iff_ne.2 fun heq => h (heq ▸ List.mem_map_of_mem hentry)
  rw [lookup, hnone, Option.getD_none]

/-- Members of different keys are merged in their order. -/
theorem mergeMembers_new {added old : List (String × Tree)}
    (hwhole : ∀ entry ∈ added, entry.2.IsWhole) (hnodup : ((old ++ added).map Prod.fst).Nodup) :
    Tree.mergeMembers added old = old ++ added := by
  induction added generalizing old with
  | nil => rw [Tree.mergeMembers, List.append_nil]
  | cons entry added ih =>
    obtain ⟨key, t⟩ := entry
    have hnew : key ∉ old.map Prod.fst := by
      rw [List.map_append, List.map_cons, List.nodup_append] at hnodup
      exact fun hmem => hnodup.2.2 key hmem key List.mem_cons_self rfl
    have hassoc : old ++ (key, t) :: added = old ++ [(key, t)] ++ added := by
      rw [List.append_assoc, List.singleton_append]
    have ht : t.merge .absent = t := hwhole _ List.mem_cons_self
    rw [hassoc] at hnodup ⊢
    rw [Tree.mergeMembers, lookup_new hnew, ht, bind_new hnew,
      ih (fun entry h => hwhole entry (List.mem_cons_of_mem _ h)) hnodup]

theorem isWhole_table {members : List (String × Tree)}
    (hwhole : ∀ entry ∈ members, entry.2.IsWhole) (hnodup : (members.map Prod.fst).Nodup) :
    (Tree.table members).IsWhole := by
  have hmerge : Tree.mergeMembers members [] = members :=
    mergeMembers_new hwhole ((List.nil_append members).symm ▸ hnodup)
  have hold : Tree.absent.members = [] := rfl
  rw [Tree.IsWhole, Tree.merge, hold, hmerge]

/-- Entries under plain names are merged as members. -/
theorem setAll_plain {entries members : List (String × Tree)}
    (hplain : ∀ entry ∈ entries, pathOf entry.1 = [.key entry.1]) :
    (Tree.table members).setAll entries = .table (Tree.mergeMembers entries members) := by
  induction entries generalizing members with
  | nil => rfl
  | cons entry entries ih =>
    have hfirst : (Tree.table members).set (pathOf entry.1) entry.2 =
        .table (bind entry.1 (entry.2.merge (lookup entry.1 members)) members) := by
      rw [hplain entry List.mem_cons_self]
      rfl
    rw [Tree.setAll, List.foldl_cons, hfirst, ← Tree.setAll,
      ih fun e he => hplain e (List.mem_cons_of_mem _ he)]
    rfl

/-! ## The values of a document -/

theorem membersOf_textValues (texts : List (String × String)) :
    membersOf (textValues texts) = texts.map fun (key, s) => (key, .text s) := by
  induction texts with
  | nil => rfl
  | cons entry texts ih => exact congrArg (_ :: ·) ih

theorem treesOf_eq (items : List Toml.Value) : treesOf items = items.map Tree.ofValue := by
  induction items with
  | nil => rfl
  | cons v items ih => exact congrArg (_ :: ·) ih

theorem isWhole_textValues {texts : List (String × String)} (h : (texts.map Prod.fst).Nodup) :
    (Tree.table (membersOf (textValues texts))).IsWhole := by
  rw [membersOf_textValues]
  refine isWhole_table (fun entry hentry => ?_) (by rwa [List.map_map])
  obtain ⟨_, -, rfl⟩ := List.mem_map.1 hentry
  exact Tree.IsSingle.isWhole fun _ => by simp

def valueMembers (s : Settings) : List (String × Tree) := membersOf s.values

theorem keys_valueMembers (s : Settings) :
    s.valueMembers.map Prod.fst = ["envoy", "discovery", "logging", "output"] := rfl

theorem isWhole_discoveryValues (s : DiscoverySettings) :
    (Tree.table (membersOf s.values)).IsWhole := by
  refine isWhole_table (fun entry hentry => ?_) ?_
  · simp only [DiscoverySettings.values, membersOf, Tree.ofValue, List.mem_cons, List.not_mem_nil,
      or_false] at hentry
    obtain rfl | rfl | rfl := hentry <;> exact Tree.IsSingle.isWhole fun _ => by simp
  · have hkeys : (membersOf s.values).map Prod.fst =
        ["max_response_size", "user_agent", "offline_providers"] := rfl
    rw [hkeys]
    decide

theorem isWhole_of_mem_valueMembers {s : Settings} :
    ∀ entry ∈ s.valueMembers, entry.2.IsWhole := by
  intro entry hentry
  simp only [valueMembers, Settings.values, membersOf, List.mem_cons, List.not_mem_nil,
    or_false] at hentry
  obtain rfl | rfl | rfl | rfl := hentry
  · exact isWhole_textValues (by simp [ProxySettings.texts])
  · exact isWhole_discoveryValues s.discovery
  · exact isWhole_textValues (by simp)
  · exact isWhole_textValues (by simp)

/-- What a document of settings gives is just what it binds. -/
theorem sources_values (s : Settings) : sources s.values [] = .table s.valueMembers := by
  have hplain : ∀ entry ∈ s.valueMembers, pathOf entry.1 = [.key entry.1] := by
    have hkeys : ∀ key ∈ ["envoy", "discovery", "logging", "output"], pathOf key = [.key key] := by
      decide +kernel
    intro entry hentry
    exact hkeys _ (s.keys_valueMembers ▸ List.mem_map_of_mem hentry)
  have hnodup : (s.valueMembers.map Prod.fst).Nodup := by
    rw [keys_valueMembers]
    decide
  have hmerge : Tree.mergeMembers s.valueMembers [] = s.valueMembers :=
    mergeMembers_new isWhole_of_mem_valueMembers ((List.nil_append s.valueMembers).symm ▸ hnodup)
  rw [sources, ← valueMembers, setAll_plain hplain, hmerge]
  rfl

/-! ## Each setting -/

theorem asProvider?_textValues (p : ProviderSettings) :
    (Tree.ofValue (.table (textValues p.texts))).asProvider? = some p := by
  obtain ⟨name, pattern, authorizeSuffix, tokenSuffix, endSessionSuffix⟩ := p
  cases endSessionSuffix <;> rfl

theorem asProviders?_values (providers : List ProviderSettings) :
    (Tree.ofValue (.list (providers.map fun p => .table (textValues p.texts)))).asProviders? =
      some providers := by
  rw [Tree.ofValue, treesOf_eq, Tree.asProviders?, List.map_map]
  induction providers with
  | nil => rfl
  | cons p providers ih =>
    rw [List.map_cons, List.mapM_cons, ih, Function.comp_apply, asProvider?_textValues]
    rfl

theorem exactFormat?_name (f : OutputFormat) : exactFormat? f.name = some f := by
  cases f <;> decide

section Reloading

variable {s : Settings}

theorem value?_values (hconnect : s.proxy.connectTimeout.seconds < Duration.amountLimit)
    (htoken : s.proxy.tokenTimeout.seconds < Duration.amountLimit) (k : Key) :
    k.value? ((Tree.table s.valueMembers).given? k) = some (s.get k) := by
  cases k with
  | connectTimeout => exact Duration.ofWritten?_written hconnect
  | tokenTimeout => exact Duration.ofWritten?_written htoken
  | offlineProviders => exact asProviders?_values s.discovery.offlineProviders
  | format => exact exactFormat?_name s.format
  | _ => rfl

theorem asSettings?_values (hconnect : s.proxy.connectTimeout.seconds < Duration.amountLimit)
    (htoken : s.proxy.tokenTimeout.seconds < Duration.amountLimit) :
    (Tree.table s.valueMembers).asSettings? = some s := by
  refine asSettings?_eq_some_iff.2 ⟨fun k t ht => ?_, value?_values hconnect htoken⟩
  cases k <;> exact Option.some.inj ht ▸ rfl

/-- A duration that was loaded can be written. -/
theorem seconds_lt_of_asDuration? {given : Option Tree} {otherwise d : Duration}
    (hotherwise : otherwise.seconds < Duration.amountLimit)
    (h : (match given with
      | none => some otherwise
      | some t => t.asDuration?) = some d) : d.seconds < Duration.amountLimit := by
  cases given with
  | none => exact Option.some.inj h ▸ hotherwise
  | some t =>
    obtain ⟨text, -, htext⟩ := Option.bind_eq_some_iff.1 h
    exact Duration.seconds_lt_of_ofWritten? htext

theorem seconds_lt_of_load {file : Option String} {environment : Environment}
    (h : load file environment = .ok s) :
    s.proxy.connectTimeout.seconds < Duration.amountLimit ∧
      s.proxy.tokenTimeout.seconds < Duration.amountLimit := by
  obtain ⟨members, -, hvalue⟩ := value?_of_load h
  have hconnect : Key.connectTimeout.default.seconds < Duration.amountLimit := by decide
  have htoken : Key.tokenTimeout.default.seconds < Duration.amountLimit := by decide
  exact ⟨seconds_lt_of_asDuration? hconnect (hvalue .connectTimeout),
    seconds_lt_of_asDuration? htoken (hvalue .tokenTimeout)⟩

/-- **Settings that are shown and loaded again are the same settings**, unless their size is one
that the document cannot hold; then the document is not read. -/
theorem load_document {file : Option String} {environment : Environment}
    (h : load file environment = .ok s) :
    load (some s.document) [] =
      if s.discovery.maxResponseSize < sizeLimit then .ok s else .error .unreadable := by
  obtain ⟨hconnect, htoken⟩ := seconds_lt_of_load h
  obtain ⟨_, -, -, hcheck⟩ := load_eq_ok_iff.1 h
  split
  · rename_i hsize
    refine load_eq_ok_iff.2 ⟨.table s.valueMembers, ?_, asSettings?_values hconnect htoken, hcheck⟩
    rw [said?, document?, read?_document_of_lt hsize, Option.map_some, sources_values]
  · rename_i hsize
    rw [load_eq, said?, document?, read?_document_of_le (Nat.not_lt.1 hsize)]
    rfl

end Reloading

end LoginGate.Settings
