import LoginGate.Compilation
import LoginGate.Proofs.Checks
import LoginGate.Proofs.Identity.Resolving
import LoginGate.Settings.Check

/-!
# When resolved endpoints are filled

A discovery document with a blank endpoint is refused, or the endpoint left out, so what is fetched
is filled.  A known provider puts its suffixes behind what its group `base` matched, and nothing is
asked of either: an endpoint is blank where both are.  The built-in provider has no blank suffix, so
that takes a provider of the settings:

    ¬ endpoints.Filled ↔ ∃ o ∈ s.discovery.offlineProviders, ∃ p, Provider.ofSettings o = .ok p ∧
      firstKnown? c.providers (trim uri) = some p ∧ p.LeavesBlank (trim uri)
                                                                         (resolved_blank_iff)

Which providers the settings may list is asked twice, when the settings are checked and when the
provider is made.  Both ask for a pattern with a group `base`, and the check for a name besides:

    o.check = .ok () ↔ isBlankText o.name = false ∧ o.HasBase       (ProviderSettings.checks_iff)
    (∃ p, Provider.ofSettings o = .ok p) ↔ o.HasBase                (Provider.exists_ofSettings_iff)
-/

namespace LoginGate

open LoginGate.Text LoginGate.Identity

/-! ## Patterns of providers -/

/-- Is the text a pattern with a group that is named `base`? -/
def ProviderSettings.HasBase (o : ProviderSettings) : Prop :=
  ∃ pattern, Pattern.ofText? o.pattern = some pattern ∧ "base" ∈ pattern.groupNames

theorem ProviderSettings.checks_iff {o : ProviderSettings} :
    o.check = .ok () ↔ isBlankText o.name = false ∧ o.HasBase := by
  unfold check HasBase
  by_cases hname : isBlankText o.name = true
  · rw [if_pos hname]
    exact iff_of_false nofun fun h => Bool.noConfusion (h.1.symm.trans hname)
  · rw [if_neg hname, Bool.not_eq_true] at *
    cases Pattern.ofText? o.pattern with
    | none => exact iff_of_false nofun (by simp)
    | some pattern => by_cases hbase : "base" ∈ pattern.groupNames <;> simp [hname, hbase]

namespace Identity

theorem readPattern_eq_ok_iff {text : String} {pattern : Pattern} :
    readPattern text = .ok pattern ↔
      Pattern.ofText? text = some pattern ∧ "base" ∈ pattern.groupNames := by
  unfold readPattern
  cases Pattern.ofText? text with
  | none => exact iff_of_false nofun (by simp)
  | some other =>
    show (if "base" ∈ other.groupNames then _ else _) = _ ↔ _
    by_cases hbase : "base" ∈ other.groupNames
    · rw [if_pos hbase]
      constructor
      · intro h
        obtain rfl := Except.ok.inj h
        exact ⟨rfl, hbase⟩
      · rintro ⟨h, -⟩
        obtain rfl := Option.some.inj h
        rfl
    · rw [if_neg hbase]
      refine iff_of_false nofun ?_
      rintro ⟨h, hother⟩
      obtain rfl := Option.some.inj h
      exact hbase hother

theorem Provider.exists_ofSettings_iff {o : ProviderSettings} :
    (∃ p, Provider.ofSettings o = .ok p) ↔ o.HasBase := by
  unfold Provider.ofSettings ProviderSettings.HasBase
  simp only [← readPattern_eq_ok_iff]
  cases readPattern o.pattern with
  | ok pattern => exact iff_of_true ⟨_, rfl⟩ ⟨_, rfl⟩
  | error fault => cases fault <;> exact iff_of_false nofun nofun

end Identity

/-! ## Endpoints -/

/-- No endpoint that is there is blank. -/
structure Endpoints.Filled (e : Endpoints) : Prop where
  authorize : isBlankText e.authorize = false
  token : isBlankText e.token = false
  endSession : ∀ uri ∈ e.endSession, isBlankText uri = false

theorem isBlankText_append (a b : String) :
    isBlankText (a ++ b) = (isBlankText a && isBlankText b) := by
  rw [isBlankText, String.toList_append, List.all_append]
  rfl

namespace Identity

/-! ## Documents -/

theorem isBlankText_of_nonBlank {s : Option String} {t : String} (h : nonBlank s = some t) :
    isBlankText t = false := by
  simpa using (Option.filter_eq_some_iff.1 h).2

theorem DiscoveryDocument.filled {d : DiscoveryDocument} {uri : String} {e : Endpoints}
    (h : d.endpoints uri = .ok e) : e.Filled := by
  unfold DiscoveryDocument.endpoints at h
  split at h
  · next authorize token ha ht =>
    obtain rfl := Except.ok.inj h
    exact ⟨isBlankText_of_nonBlank ha, isBlankText_of_nonBlank ht,
      fun _ hs => isBlankText_of_nonBlank hs⟩
  · cases h

/-! ## Known providers -/

namespace Provider

def HasBlankSuffix (p : Provider) : Prop :=
  isBlankText p.authorizeSuffix = true ∨ isBlankText p.tokenSuffix = true ∨
    ∃ s ∈ p.endSessionSuffix, isBlankText s = true

/-- Does the provider find a blank text in the URI, and have a blank suffix to put behind it? -/
def LeavesBlank (p : Provider) (uri : String) : Prop :=
  (∃ base, p.pattern.captured? baseGroup uri.toList = some base ∧ base.all isBlank = true) ∧
    p.HasBlankSuffix

theorem mock_suffixes : ¬ mock.HasBlankSuffix := by
  rintro (h | h | ⟨s, hs, h⟩)
  · exact absurd h (by decide)
  · exact absurd h (by decide)
  · obtain rfl := Option.some.inj hs
    exact absurd h (by decide)

theorem filled_iff {p : Provider} {uri : String} {e : Endpoints} (h : p.endpoints? uri = some e) :
    e.Filled ↔ ¬ p.LeavesBlank uri := by
  obtain ⟨base, hbase, rfl⟩ := Option.map_eq_some_iff.1 h
  have hall : isBlankText (String.ofList base) = base.all isBlank := by
    rw [isBlankText, String.toList_ofList]
  have happend (suffix : String) : isBlankText (String.ofList base ++ suffix) = false ↔
      ¬ (base.all isBlank = true ∧ isBlankText suffix = true) := by
    rw [isBlankText_append, hall]
    simp only [Bool.and_eq_false_iff, not_and_or, Bool.not_eq_true]
  have hleaves : p.LeavesBlank uri ↔ base.all isBlank = true ∧ p.HasBlankSuffix := by
    simp [LeavesBlank, hbase]
  rw [hleaves]
  constructor
  · rintro ⟨ha, ht, he⟩ ⟨hb, h | h | ⟨s, hs, h⟩⟩
    · exact (happend _).1 ha ⟨hb, h⟩
    · exact (happend _).1 ht ⟨hb, h⟩
    · exact (happend s).1 (he _ (Option.mem_map_of_mem _ hs)) ⟨hb, h⟩
  · intro hn
    refine ⟨(happend _).2 fun h => hn ⟨h.1, Or.inl h.2⟩,
      (happend _).2 fun h => hn ⟨h.1, Or.inr (Or.inl h.2)⟩, fun _ hend => ?_⟩
    obtain ⟨s, hs, rfl⟩ := Option.map_eq_some_iff.1 hend
    exact (happend s).2 fun h => hn ⟨h.1, Or.inr (Or.inr ⟨s, hs, h.2⟩)⟩

end Provider

def firstKnown? (providers : List Provider) (uri : String) : Option Provider :=
  providers.find? fun p => (p.endpoints? uri).isSome

/-- The endpoints that are recognised are those of the first provider that recognises the URI. -/
theorem recognise_eq (providers : List Provider) (uri : String) :
    recognise providers uri =
      (firstKnown? providers uri).bind fun p => (p.endpoints? uri).map fun e => (p.name, e) := by
  unfold recognise firstKnown?
  induction providers with
  | nil => rfl
  | cons p providers ih =>
    rw [List.findSome?_cons, List.find?_cons]
    cases hp : p.endpoints? uri with
    | none => exact ih
    | some e => simp [hp]

variable {providers : List Provider} {fetch : Fetch} {uri : String} {endpoints : Endpoints}

/-- Only a known provider leaves an endpoint blank. -/
theorem not_filled_iff (h : ((resolve providers uri).run fetch).result = .ok endpoints) :
    ¬ endpoints.Filled ↔
      ∃ p, firstKnown? providers (trim uri) = some p ∧ p.LeavesBlank (trim uri) := by
  obtain ⟨result, asked, hr⟩ := exists_resolves providers fetch (trim uri)
  rw [hr.run_eq] at h
  cases hr with
  | unset _ => cases h
  | known _ hrec =>
    obtain rfl := Except.ok.inj h
    rw [recognise_eq] at hrec
    obtain ⟨p, hp, hrec⟩ := Option.bind_eq_some_iff.1 hrec
    obtain ⟨e, he, hpair⟩ := Option.map_eq_some_iff.1 hrec
    obtain rfl := (Prod.mk.inj hpair).2
    rw [Provider.filled_iff he, Classical.not_not]
    refine ⟨fun hl => ⟨p, hp, hl⟩, ?_⟩
    rintro ⟨q, hq, hl⟩
    obtain rfl := Option.some.inj (hp.symm.trans hq)
    exact hl
  | unfetched _ _ _ => cases h
  | fetched _ hrec _ =>
    -- a document is filled, and no provider has recognised the URI
    refine iff_of_false (not_not_intro (DiscoveryDocument.filled h)) ?_
    rintro ⟨p, hp, -⟩
    have hsome := List.find?_some hp
    rw [recognise_eq, hp] at hrec
    rw [Option.bind_some, Option.map_eq_none_iff] at hrec
    rw [hrec] at hsome
    cases hsome

end Identity

/-! ## Accepted settings -/

theorem ProviderSettings.exists_provider {s : ProviderSettings} (h : s.check = .ok ()) :
    ∃ p, Provider.ofSettings s = .ok p :=
  Provider.exists_ofSettings_iff.2 (checks_iff.1 h).2

theorem Settings.check_offlineProviders {s : Settings} (h : s.check = .ok ()) :
    ∀ o ∈ s.discovery.offlineProviders, o.check = .ok () := by
  obtain ⟨_, -, h⟩ := bind_eq_ok_iff.1 h
  obtain ⟨_, hd, -⟩ := bind_eq_ok_iff.1 h
  rw [← forM_eq_ok_iff]
  unfold DiscoverySettings.check at hd
  split at hd
  · cases hd
  · exact hd

/-- Accepted settings describe a compiler: the built-in provider and then those of the settings, in
order. -/
theorem Compiler.exists_providers {s : Settings} (h : s.check = .ok ()) :
    ∃ ps, List.Forall₂ (fun o p => Provider.ofSettings o = .ok p) s.discovery.offlineProviders ps ∧
      Compiler.ofSettings s = .ok ⟨builtin ++ ps, s.proxy⟩ := by
  obtain ⟨ps, hps, -⟩ := exists_mapM_eq_ok fun o ho =>
    ProviderSettings.exists_provider (s.check_offlineProviders h o ho)
  refine ⟨ps, mapM_eq_ok_iff_forall₂.1 hps, ?_⟩
  unfold Compiler.ofSettings knownProviders
  rw [hps]
  rfl

/-- The providers of a compiler are the built-in one and providers of the settings. -/
theorem Compiler.exists_ofSettings {s : Settings} (h : s.check = .ok ()) :
    ∃ ps, Compiler.ofSettings s = .ok ⟨builtin ++ ps, s.proxy⟩ ∧
      ∀ p ∈ ps, ∃ o ∈ s.discovery.offlineProviders, Provider.ofSettings o = .ok p := by
  obtain ⟨ps, hps, hc⟩ := Compiler.exists_providers h
  exact ⟨ps, hc, fun p hp => exists_of_mem_mapM (mapM_eq_ok_iff_forall₂.2 hps) hp⟩

/-- **When resolved endpoints are filled.**  With the compiler of accepted settings an endpoint is
blank exactly when the first provider that recognises the URI is one of the settings, finds a blank
text there, and has a blank suffix. -/
theorem resolved_blank_iff {s : Settings} (hs : s.check = .ok ()) :
    ∃ c, Compiler.ofSettings s = .ok c ∧ ∀ fetch uri endpoints,
      ((resolve c.providers uri).run fetch).result = .ok endpoints →
      (¬ endpoints.Filled ↔ ∃ o ∈ s.discovery.offlineProviders, ∃ p,
        Provider.ofSettings o = .ok p ∧ firstKnown? c.providers (trim uri) = some p ∧
        p.LeavesBlank (trim uri)) := by
  obtain ⟨ps, hc, hall⟩ := Compiler.exists_ofSettings hs
  refine ⟨_, hc, fun fetch uri endpoints h => ?_⟩
  rw [not_filled_iff h]
  constructor
  · rintro ⟨p, hp, hl⟩
    have hmem := List.mem_of_find?_eq_some hp
    rcases List.mem_append.1 hmem with hb | hb
    · obtain rfl := List.mem_singleton.1 hb
      exact absurd hl.2 Provider.mock_suffixes
    · obtain ⟨o, ho, hop⟩ := hall p hb
      exact ⟨o, ho, p, hop, hp, hl⟩
  · rintro ⟨-, -, p, -, hp, hl⟩
    exact ⟨p, hp, hl⟩

/-- What settings say of a provider that finds nothing in a URI and puts nothing behind it. -/
def bareProviderSettings : ProviderSettings := ⟨"bare", "^(?P<base>)", "", "", some ""⟩

def bareSettings : Settings := { discovery := { offlineProviders := [bareProviderSettings] } }

def bareProvider : Provider :=
  ⟨"bare", .sequence [.look .textStart, .group (some baseGroup) .empty], "", "", some ""⟩

/-- Such settings are accepted, and leave every endpoint blank. -/
theorem bareSettings_blank : bareSettings.check = .ok () ∧
    ∃ c, Compiler.ofSettings bareSettings = .ok c ∧ ∃ endpoints,
      (∀ fetch, ((resolve c.providers "https://idp/x").run fetch).result = .ok endpoints) ∧
      ¬ endpoints.Filled := by
  have hcheck : bareSettings.check = .ok () := eq_ok_of_toOption (by decide +kernel)
  obtain ⟨c, hc, hblank⟩ := resolved_blank_iff hcheck
  have hproviders : c.providers = builtin ++ [bareProvider] := by
    have h : (Compiler.ofSettings bareSettings).toOption.map Compiler.providers =
        some (builtin ++ [bareProvider]) := by decide +kernel
    rw [hc] at h
    exact Option.some.inj h
  have htrim : trim "https://idp/x" = "https://idp/x" := by decide +kernel
  have hresult (fetch : Fetch) :
      ((resolve c.providers "https://idp/x").run fetch).result = .ok ⟨"", "", some ""⟩ := by
    have hr : Resolves c.providers fetch (trim "https://idp/x") (.ok ⟨"", "", some ""⟩) [] := by
      rw [hproviders, htrim]
      exact @Resolves.known _ fetch _ "bare" _ (by decide) (by decide +kernel)
    rw [hr.run_eq]
  have hprovider : Provider.ofSettings bareProviderSettings = .ok bareProvider :=
    eq_ok_of_toOption (by decide +kernel)
  have hknown : firstKnown? c.providers (trim "https://idp/x") = some bareProvider := by
    rw [hproviders, htrim]
    decide +kernel
  have hleaves : bareProvider.LeavesBlank (trim "https://idp/x") := by
    rw [htrim]
    exact ⟨⟨[], by decide +kernel, rfl⟩, Or.inl (by decide +kernel)⟩
  refine ⟨hcheck, c, hc, _, hresult, ?_⟩
  rw [hblank (fun _ => .error (.configuration .uriUnset)) _ _ (hresult _)]
  exact ⟨_, List.mem_singleton_self _, bareProvider, hprovider, hknown, hleaves⟩

end LoginGate
