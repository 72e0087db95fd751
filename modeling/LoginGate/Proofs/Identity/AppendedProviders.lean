import LoginGate.Proofs.CompilationPass
import LoginGate.Proofs.Identity.FilledEndpoints

/-!
# Providers put behind others

`Settings.known?` says what the providers of settings find in a URI: the built-in one first, then
those of the settings in order.  Of the providers a compilation sees nothing else
(`compileFilter_congr`), so more of them at the end change it only for a URI that was not known:

    (s.withProviders more).known? uri = (s.known? uri).or (found? more uri)   (known?_withProviders)

A blank URI is refused before any provider is asked, also where the pattern of one fits it.
-/

namespace LoginGate

open LoginGate.Text LoginGate.Identity LoginGate.Filter

/-! ## What settings know -/

/-- The endpoints that a provider of the settings finds in a URI. -/
def ProviderSettings.endpoints? (o : ProviderSettings) (uri : String) : Option Endpoints :=
  (Provider.ofSettings o).toOption.bind fun p => p.endpoints? uri

/-- The endpoints that the first provider to recognise the URI finds in it. -/
def found? (providers : List ProviderSettings) (uri : String) : Option Endpoints :=
  providers.findSome? fun o => o.endpoints? uri

/-- The endpoints that are known without a document: those of the built-in provider, or else those
of the first provider of the settings that recognises the URI. -/
def Settings.known? (s : Settings) (uri : String) : Option Endpoints :=
  (Provider.mock.endpoints? uri).or (found? s.discovery.offlineProviders uri)

/-- The settings with more providers behind those that they have. -/
def Settings.withProviders (s : Settings) (more : List ProviderSettings) : Settings :=
  { s with discovery := { s.discovery with
      offlineProviders := s.discovery.offlineProviders ++ more } }

theorem known?_withProviders (s : Settings) (more : List ProviderSettings) (uri : String) :
    (s.withProviders more).known? uri = (s.known? uri).or (found? more uri) := by
  unfold Settings.known? found? Settings.withProviders
  rw [List.findSome?_append, Option.or_assoc]

theorem found?_cons (o : ProviderSettings) (providers : List ProviderSettings) (uri : String) :
    found? (o :: providers) uri = (o.endpoints? uri).or (found? providers uri) := by
  unfold found?
  rw [List.findSome?_cons]
  cases o.endpoints? uri <;> rfl

theorem found?_eq_none_iff {providers : List ProviderSettings} {uri : String} :
    found? providers uri = none ↔ ∀ o ∈ providers, o.endpoints? uri = none :=
  List.findSome?_eq_none_iff

theorem check_withProviders {s : Settings} {more : List ProviderSettings} (hs : s.check = .ok ())
    (hmore : ∀ o ∈ more, o.check = .ok ()) : (s.withProviders more).check = .ok () := by
  obtain ⟨_, hproxy, h⟩ := bind_eq_ok_iff.1 hs
  obtain ⟨_, hdiscovery, hlevel⟩ := bind_eq_ok_iff.1 h
  refine bind_eq_ok_iff.2 ⟨(), hproxy, bind_eq_ok_iff.2 ⟨(), ?_, hlevel⟩⟩
  have hall := s.check_offlineProviders hs
  unfold DiscoverySettings.check at hdiscovery ⊢
  by_cases hsize : s.discovery.maxResponseSize = 0
  · rw [if_pos hsize] at hdiscovery
    cases hdiscovery
  · rw [Settings.withProviders, if_neg hsize]
    exact (forM_eq_ok_iff _ _).2 (List.forall_mem_append.2 ⟨hall, hmore⟩)

/-! ## What a compiler sees of its providers -/

namespace Identity

/-- The endpoints that the first of the providers finds in the URI. -/
def knownEndpoints? (providers : List Provider) (uri : String) : Option Endpoints :=
  (recognise providers uri).map Prod.snd

theorem knownEndpoints?_cons (p : Provider) (providers : List Provider) (uri : String) :
    knownEndpoints? (p :: providers) uri =
      (p.endpoints? uri).or (knownEndpoints? providers uri) := by
  unfold knownEndpoints? recognise
  rw [List.findSome?_cons]
  cases p.endpoints? uri <;> rfl

theorem knownEndpoints?_of_mapM {settings : List ProviderSettings} {providers : List Provider}
    (h : settings.mapM Provider.ofSettings = .ok providers) (uri : String) :
    knownEndpoints? providers uri = found? settings uri := by
  induction settings generalizing providers with
  | nil =>
    obtain rfl := Except.ok.inj h
    rfl
  | cons o settings ih =>
    rw [List.mapM_cons] at h
    obtain ⟨p, hp, h⟩ := bind_eq_ok_iff.1 h
    obtain ⟨rest, hrest, h⟩ := bind_eq_ok_iff.1 h
    obtain rfl := Except.ok.inj h
    have hfirst : o.endpoints? uri = p.endpoints? uri := by
      rw [ProviderSettings.endpoints?, hp]
      rfl
    rw [knownEndpoints?_cons, ih hrest, found?_cons, hfirst]

variable {providers others : List Provider} {uri : String} {fetch : Fetch} {e : Endpoints}

theorem resolve_eq (providers : List Provider) (uri : String) : resolve providers uri =
    if (trim uri).isEmpty then Pass.ofExcept (.error (.configuration .uriUnset))
    else match knownEndpoints? providers (trim uri) with
      | some endpoints => pure endpoints
      | none => Pass.document (trim uri) >>= fun d => Pass.ofExcept (d.endpoints (trim uri)) := by
  unfold resolve knownEndpoints?
  dsimp only
  cases recognise providers (trim uri) <;> rfl

/-- Providers that know the same endpoints resolve a URI alike. -/
theorem resolve_congr
    (h : knownEndpoints? providers (trim uri) = knownEndpoints? others (trim uri)) :
    resolve providers uri = resolve others uri := by
  rw [resolve_eq, resolve_eq, h]

theorem resolves_known (huri : uri ≠ "") (h : knownEndpoints? providers uri = some e) :
    Resolves providers fetch uri (.ok e) [] := by
  obtain ⟨⟨name, endpoints⟩, hr, rfl⟩ := Option.map_eq_some_iff.1 h
  exact .known huri hr

theorem trim_ne_of_mock (h : Provider.mock.endpoints? (trim uri) = some e) : trim uri ≠ "" := by
  intro huri
  rw [huri] at h
  exact absurd h (by rw [show Provider.mock.endpoints? "" = none by decide +kernel]; simp)

end Identity

namespace Compiler

variable {c c' : Compiler} {p : Policy} {fetch : Fetch} {e : Endpoints}

/-- The compiler of settings knows what the settings know. -/
theorem knownEndpoints?_of_ofSettings {s : Settings} (h : ofSettings s = .ok c) :
    c.proxy = s.proxy ∧ ∀ uri, knownEndpoints? c.providers uri = s.known? uri := by
  obtain ⟨providers, hp, h⟩ := bind_eq_ok_iff.1 h
  obtain rfl := Except.ok.inj h
  obtain ⟨more, hmore, h⟩ := bind_eq_ok_iff.1 hp
  obtain rfl := Except.ok.inj h
  refine ⟨rfl, fun uri => ?_⟩
  rw [Settings.known?, ← knownEndpoints?_of_mapM hmore]
  exact knownEndpoints?_cons .mock more uri

/-- Compilers that know the same endpoints compile a policy alike. -/
theorem compileFilter_congr (hproxy : c.proxy = c'.proxy)
    (h : knownEndpoints? c.providers (trim p.spec.wellKnownURI) =
      knownEndpoints? c'.providers (trim p.spec.wellKnownURI)) :
    c.compileFilter p = c'.compileFilter p := by
  rw [← trim_trim] at h
  unfold compileFilter compile locate
  dsimp only
  rw [resolve_congr h, hproxy]

/-- The filter of a policy whose provider has the given endpoints. -/
def filterAt (proxy : ProxySettings) (p : Policy) (e : Endpoints) :
    Except CompileError EnvoyFilter := do
  p.check
  let target ← NetworkTarget.derive e.token (trim p.spec.wellKnownURI)
  let compiled ← p.compiled e target
  generate proxy compiled

/-- Where a provider knows the URI, its endpoints are taken and nothing is asked for. -/
theorem run_compileFilter_known (huri : trim p.spec.wellKnownURI ≠ "")
    (h : knownEndpoints? c.providers (trim p.spec.wellKnownURI) = some e) :
    (c.compileFilter p).run fetch = ⟨filterAt c.proxy p e, []⟩ := by
  cases hcheck : p.check with
  | error fault =>
    rw [(Compiles.refused hcheck).run_eq, filterAt, hcheck]
    rfl
  | ok _ =>
    rw [run_compileFilter hcheck (resolves_known huri h), filterAt, hcheck]
    simp only [bind, Except.bind]
    cases NetworkTarget.derive e.token (trim p.spec.wellKnownURI) <;> rfl

/-- A blank URI is refused, whatever is known. -/
theorem run_compileFilter_blank (huri : trim p.spec.wellKnownURI = "") :
    (c.compileFilter p).run fetch =
      ⟨p.check >>= fun _ => .error (.configuration .uriUnset), []⟩ := by
  cases hcheck : p.check with
  | error fault =>
    rw [(Compiles.refused hcheck).run_eq]
    rfl
  | ok _ => exact (Compiles.unresolved hcheck (.unset huri)).run_eq

/-- **Providers behind others take nothing from them.**  With more providers in accepted settings, a
policy whose URI was known is compiled as before, and so is one whose URI the new providers do not
recognise; a new URI has the endpoints of the first new provider that recognises it.  Neither asks
for a document then.  A blank URI is refused as before, and the URIs of the built-in provider always
resolve to its own endpoints. -/
theorem compileFilter_withProviders {s : Settings} {more : List ProviderSettings}
    (hs : s.check = .ok ()) (hmore : ∀ o ∈ more, o.check = .ok ()) :
    (s.withProviders more).check = .ok () ∧
    ∃ c c', ofSettings s = .ok c ∧ ofSettings (s.withProviders more) = .ok c' ∧
      (∀ (p : Policy) (fetch : Fetch),
        ((s.known? (trim p.spec.wellKnownURI)).isSome →
          (c'.compileFilter p).run fetch = (c.compileFilter p).run fetch ∧
          ((c.compileFilter p).run fetch).asked = []) ∧
        ((∀ o ∈ more, o.endpoints? (trim p.spec.wellKnownURI) = none) →
          (c'.compileFilter p).run fetch = (c.compileFilter p).run fetch) ∧
        (trim p.spec.wellKnownURI = "" →
          (c'.compileFilter p).run fetch = (c.compileFilter p).run fetch ∧
          (c.compileFilter p).run fetch =
            ⟨p.check >>= fun _ => .error (.configuration .uriUnset), []⟩) ∧
        ∀ e, s.known? (trim p.spec.wellKnownURI) = none →
          found? more (trim p.spec.wellKnownURI) = some e → trim p.spec.wellKnownURI ≠ "" →
          (resolve c'.providers p.spec.wellKnownURI).run fetch = ⟨.ok e, []⟩ ∧
          (c'.compileFilter p).run fetch = ⟨filterAt s.proxy p e, []⟩) ∧
      ∀ uri e fetch, Provider.mock.endpoints? (trim uri) = some e →
        (resolve c.providers uri).run fetch = ⟨.ok e, []⟩ ∧
        (resolve c'.providers uri).run fetch = ⟨.ok e, []⟩ := by
  have hs' := check_withProviders hs hmore
  obtain ⟨_, hc, -⟩ := exists_ofSettings hs
  obtain ⟨_, hc', -⟩ := exists_ofSettings hs'
  obtain ⟨hproxy, hknown⟩ := knownEndpoints?_of_ofSettings hc
  obtain ⟨hproxy', hknown'⟩ := knownEndpoints?_of_ofSettings hc'
  simp only [known?_withProviders] at hknown'
  refine ⟨hs', _, _, hc, hc', fun p fetch => ⟨fun h => ?_, fun h => ?_, fun h => ?_, ?_⟩, ?_⟩
  · obtain ⟨e, he⟩ := Option.isSome_iff_exists.1 h
    refine ⟨congrArg (Pass.run · fetch) (compileFilter_congr rfl ?_), ?_⟩
    · rw [hknown', hknown, he]
      rfl
    · by_cases huri : trim p.spec.wellKnownURI = ""
      · rw [run_compileFilter_blank huri]
      · rw [run_compileFilter_known huri ((hknown _).trans he)]
  · refine congrArg (Pass.run · fetch) (compileFilter_congr rfl ?_)
    rw [hknown', hknown, found?_eq_none_iff.2 h, Option.or_none]
  · rw [run_compileFilter_blank h, run_compileFilter_blank h]
    exact ⟨rfl, rfl⟩
  · intro e hnone hfound huri
    have he := hknown' (trim p.spec.wellKnownURI)
    rw [hnone, hfound, Option.none_or] at he
    exact ⟨(resolves_known huri he).run_eq, run_compileFilter_known huri he⟩
  · intro uri e fetch h
    have hmock (providers : List ProviderSettings) :
        ((Provider.mock.endpoints? (trim uri)).or (found? providers (trim uri))) = some e := by
      rw [h, Option.some_or]
    have huri := trim_ne_of_mock h
    refine ⟨(resolves_known huri ((hknown _).trans (hmock _))).run_eq,
      (resolves_known huri ((hknown' _).trans ?_)).run_eq⟩
    rw [Settings.known?, hmock, Option.some_or]

/-- What settings say of a provider that recognises every text, and has fixed endpoints. -/
def fixedProviderSettings : ProviderSettings :=
  ⟨"fixed", "^(?P<base>)", "https://idp/authorize", "https://idp/token", none⟩

/-- A provider that recognises every text does not get the URIs of the built-in one, but those that
nobody had. -/
theorem compileFilter_withProviders_fixed : ∃ c,
    ofSettings (({} : Settings).withProviders [fixedProviderSettings]) = .ok c ∧
    (∀ fetch, (resolve c.providers
      "http://mock-oauth2.auth:8080/a/.well-known/openid-configuration").run fetch =
        ⟨.ok ⟨"http://mock-oauth2.auth:8080/a/authorize", "http://mock-oauth2.auth:8080/a/token",
          some "http://mock-oauth2.auth:8080/a/endsession"⟩, []⟩) ∧
    ∀ fetch, (resolve c.providers "https://idp/x").run fetch =
      ⟨.ok ⟨"https://idp/authorize", "https://idp/token", none⟩, []⟩ := by
  have hs : ({} : Settings).check = .ok () := eq_ok_of_toOption (by decide +kernel)
  have hmore : ∀ o ∈ [fixedProviderSettings], o.check = .ok () := by
    intro o ho
    obtain rfl := List.mem_singleton.1 ho
    exact eq_ok_of_toOption (by decide +kernel)
  obtain ⟨-, _, c, -, hc, hpolicies, hmock⟩ := compileFilter_withProviders hs hmore
  refine ⟨c, hc, fun fetch => (hmock _ _ fetch (by decide +kernel)).2, fun fetch => ?_⟩
  exact ((hpolicies { spec := { wellKnownURI := "https://idp/x" } } fetch).2.2.2 _
    (by decide +kernel) (by decide +kernel) (by decide +kernel)).1

/-- A blank URI that nobody knew is recognised by such a provider, and has no endpoints still. -/
theorem found_but_unresolved_blank : ∃ c e,
    ({} : Settings).check = .ok () ∧ fixedProviderSettings.check = .ok () ∧
    ({} : Policy).check = .ok () ∧
    ofSettings (({} : Settings).withProviders [fixedProviderSettings]) = .ok c ∧
    ({} : Settings).known? (trim ({} : Policy).spec.wellKnownURI) = none ∧
    found? [fixedProviderSettings] (trim ({} : Policy).spec.wellKnownURI) = some e ∧
    ∀ fetch, (resolve c.providers ({} : Policy).spec.wellKnownURI).run fetch ≠ ⟨.ok e, []⟩ ∧
      (c.compileFilter {}).run fetch = ⟨.error (.configuration .uriUnset), []⟩ := by
  have hs : ({} : Settings).check = .ok () := eq_ok_of_toOption (by decide +kernel)
  have hfixed : fixedProviderSettings.check = .ok () := eq_ok_of_toOption (by decide +kernel)
  have hmore : ∀ o ∈ [fixedProviderSettings], o.check = .ok () :=
    fun o ho => List.mem_singleton.1 ho ▸ hfixed
  obtain ⟨_, hc, -⟩ := exists_ofSettings (check_withProviders hs hmore)
  have hcheck : ({} : Policy).check = .ok () := eq_ok_of_toOption (by decide +kernel)
  have htrim : trim ({} : Policy).spec.wellKnownURI = "" := by decide +kernel
  refine ⟨_, ⟨"https://idp/authorize", "https://idp/token", none⟩, hs, hfixed, hcheck, hc,
    by decide +kernel, by decide +kernel, fun fetch => ⟨?_, ?_⟩⟩
  · rw [(Resolves.unset htrim).run_eq]
    exact fun h => by cases h
  · rw [run_compileFilter_blank htrim, hcheck]
    rfl

end Compiler

end LoginGate
