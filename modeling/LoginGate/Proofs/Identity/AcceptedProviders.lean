import LoginGate.Proofs.Identity.AppendedProviders

/-!
# The providers of accepted settings

A provider with a name is accepted by the check of the settings exactly when it can be made, so
accepted settings always describe a compiler.  Its providers are the built-in one and one for each
entry, and a URI has the endpoints of the first that recognises it:

    recognise c.providers uri =
      (mock, or else the first entry whose provider recognises the URI)        (accepted_providers)
-/

namespace LoginGate

open LoginGate.Text LoginGate.Identity

namespace Identity

theorem Provider.name_of_ofSettings {o : ProviderSettings} {p : Provider}
    (h : Provider.ofSettings o = .ok p) : p.name = o.name := by
  unfold Provider.ofSettings at h
  cases hp : readPattern o.pattern with
  | ok pattern =>
    rw [hp] at h
    obtain rfl := Except.ok.inj h
    rfl
  | error fault =>
    rw [hp] at h
    cases fault <;> cases h

theorem recognise_cons (p : Provider) (providers : List Provider) (uri : String) :
    recognise (p :: providers) uri =
      ((p.endpoints? uri).map (p.name, ·)).or (recognise providers uri) := by
  unfold recognise
  rw [List.findSome?_cons]
  cases p.endpoints? uri <;> rfl

/-- Providers that were made of settings, one by one, recognise what the first of the settings does
that recognises it. -/
theorem recognise_of_forall₂ {settings : List ProviderSettings} {providers : List Provider}
    (h : List.Forall₂ (fun o p => Provider.ofSettings o = .ok p) settings providers)
    (uri : String) :
    recognise providers uri =
      settings.findSome? fun o => (o.endpoints? uri).map (o.name, ·) := by
  induction h with
  | nil => rfl
  | @cons o p settings providers hp _ ih =>
    have hfirst : o.endpoints? uri = p.endpoints? uri := by
      rw [ProviderSettings.endpoints?, hp]
      rfl
    rw [recognise_cons, ih, List.findSome?_cons, hfirst, Provider.name_of_ofSettings hp]
    cases p.endpoints? uri <;> rfl

end Identity

/-- **The check of the settings and the making of providers agree.**  An entry with a name is
accepted exactly when a provider can be made of it, which is when its text is a pattern with a group
`base`.  So accepted settings describe a compiler, with the built-in provider and one for each
entry; of these the first that recognises a URI gives the endpoints. -/
theorem accepted_providers :
    (∀ o : ProviderSettings, isBlankText o.name = false →
      (o.check = .ok () ↔ ∃ p, Provider.ofSettings o = .ok p) ∧
      (o.check = .ok () ↔ o.HasBase)) ∧
    ∀ s : Settings, s.check = .ok () → ∃ c, Compiler.ofSettings s = .ok c ∧
      c.providers.length = 1 + s.discovery.offlineProviders.length ∧
      ∀ uri, recognise c.providers uri =
        ((Provider.mock.endpoints? uri).map (Provider.mock.name, ·)).or
          (s.discovery.offlineProviders.findSome? fun o =>
            (o.endpoints? uri).map (o.name, ·)) := by
  refine ⟨fun o hname => ?_, fun s hs => ?_⟩
  · have hcheck : o.check = .ok () ↔ o.HasBase :=
      ProviderSettings.checks_iff.trans (and_iff_right hname)
    exact ⟨hcheck.trans Provider.exists_ofSettings_iff.symm, hcheck⟩
  · obtain ⟨ps, hps, hc⟩ := Compiler.exists_providers hs
    refine ⟨_, hc, ?_, fun uri => ?_⟩
    · show ps.length + 1 = 1 + _
      rw [hps.length_eq, Nat.add_comm]
    · show recognise (.mock :: ps) uri = _
      rw [recognise_cons, recognise_of_forall₂ hps]

/-- Two entries whose patterns both fit a URI: it has the endpoints of the first. -/
theorem accepted_providers_first : ∃ s : Settings, s.check = .ok () ∧
    isBlankText bareProviderSettings.name = false ∧ bareProviderSettings.check = .ok () ∧
    bareProviderSettings.HasBase ∧
    ∃ c, Compiler.ofSettings s = .ok c ∧ c.providers.length = 3 ∧
      recognise c.providers "https://idp/x" = some ("bare", ⟨"", "", some ""⟩) := by
  have hs : (bareSettings.withProviders [Compiler.fixedProviderSettings]).check = .ok () :=
    eq_ok_of_toOption (by decide +kernel)
  have hname : isBlankText bareProviderSettings.name = false := by decide +kernel
  have hbare : bareProviderSettings.check = .ok () := eq_ok_of_toOption (by decide +kernel)
  obtain ⟨hentries, hsettings⟩ := accepted_providers
  obtain ⟨c, hc, hlength, hrecognise⟩ := hsettings _ hs
  refine ⟨_, hs, hname, hbare, (hentries _ hname).2.1 hbare, c, hc, hlength, ?_⟩
  rw [hrecognise]
  decide +kernel

end LoginGate
