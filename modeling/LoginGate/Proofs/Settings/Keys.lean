import LoginGate.Settings.Load
import Mathlib.Data.List.Basic

/-!
# The settings one by one
-/

namespace LoginGate.Settings

/-- A setting. -/
inductive Key where
  | clusterName
  | connectTimeout
  | tokenTimeout
  | clientId
  | hmacSecretPath
  | tokenSecretPath
  | credentialsDir
  | maxResponseSize
  | userAgent
  | offlineProviders
  | logLevel
  | format
  deriving DecidableEq, Repr

namespace Key

def sectionName : Key → String
  | clusterName | connectTimeout | tokenTimeout | clientId | hmacSecretPath | tokenSecretPath
  | credentialsDir => "envoy"
  | maxResponseSize | userAgent | offlineProviders => "discovery"
  | logLevel => "logging"
  | format => "output"

def name : Key → String
  | clusterName => "cluster_name"
  | connectTimeout => "connect_timeout"
  | tokenTimeout => "token_timeout"
  | clientId => "client_id"
  | hmacSecretPath => "hmac_secret_path"
  | tokenSecretPath => "token_secret_path"
  | credentialsDir => "credentials_dir"
  | maxResponseSize => "max_response_size"
  | userAgent => "user_agent"
  | offlineProviders => "offline_providers"
  | logLevel => "level"
  | format => "format"

def position : Key → Nat
  | clusterName | maxResponseSize | logLevel | format => 0
  | connectTimeout | userAgent => 1
  | tokenTimeout | offlineProviders => 2
  | clientId => 3
  | hmacSecretPath => 4
  | tokenSecretPath => 5
  | credentialsDir => 6

/-- What kind of value a setting has. -/
def Value : Key → Type
  | connectTimeout | tokenTimeout => Duration
  | maxResponseSize => Nat
  | offlineProviders => List ProviderSettings
  | format => OutputFormat
  | _ => String

/-- The value that a tree stands for, where a setting takes its value from it. -/
def read : (k : Key) → Tree → Option k.Value
  | connectTimeout | tokenTimeout => Tree.asDuration?
  | maxResponseSize => Tree.asCount?
  | offlineProviders => Tree.asProviders?
  | format => Tree.asFormat?
  | clusterName | clientId | hmacSecretPath | tokenSecretPath | credentialsDir | userAgent
  | logLevel => Tree.asText?

end Key

def get (s : Settings) : (k : Key) → k.Value
  | .clusterName => s.proxy.clusterName
  | .connectTimeout => s.proxy.connectTimeout
  | .tokenTimeout => s.proxy.tokenTimeout
  | .clientId => s.proxy.clientId
  | .hmacSecretPath => s.proxy.hmacSecretPath
  | .tokenSecretPath => s.proxy.tokenSecretPath
  | .credentialsDir => s.proxy.credentialsDir
  | .maxResponseSize => s.discovery.maxResponseSize
  | .userAgent => s.discovery.userAgent
  | .offlineProviders => s.discovery.offlineProviders
  | .logLevel => s.logLevel
  | .format => s.format

/-- The value of a setting that nothing is said about. -/
def Key.default (k : Key) : k.Value := ({} : Settings).get k

/-- What a tree gives for a setting. -/
def Tree.given? (k : Key) (t : Tree) : Option Tree :=
  (List.lookup k.sectionName t.members).bind (Tree.part? k.name k.position)

/-- The value that a setting takes from what is given for it. -/
def Key.value? (k : Key) (given : Option Tree) : Option k.Value :=
  match given with
  | none => some k.default
  | some t => k.read t

variable {s s' : Settings}

theorem proxy_eq_iff :
    s.proxy = s'.proxy ↔ ∀ k : Key, k.sectionName = "envoy" → s.get k = s'.get k := by
  constructor
  · intro h k hk
    cases k <;> first | exact absurd hk (by decide) | rw [get, h]; rfl
  · intro h
    have h₁ : s.proxy.clusterName = s'.proxy.clusterName := h .clusterName rfl
    have h₂ : s.proxy.connectTimeout = s'.proxy.connectTimeout := h .connectTimeout rfl
    have h₃ : s.proxy.tokenTimeout = s'.proxy.tokenTimeout := h .tokenTimeout rfl
    have h₄ : s.proxy.clientId = s'.proxy.clientId := h .clientId rfl
    have h₅ : s.proxy.hmacSecretPath = s'.proxy.hmacSecretPath := h .hmacSecretPath rfl
    have h₆ : s.proxy.tokenSecretPath = s'.proxy.tokenSecretPath := h .tokenSecretPath rfl
    have h₇ : s.proxy.credentialsDir = s'.proxy.credentialsDir := h .credentialsDir rfl
    cases hp : s.proxy
    cases hp' : s'.proxy
    simp_all

theorem discovery_eq_iff :
    s.discovery = s'.discovery ↔ ∀ k : Key, k.sectionName = "discovery" → s.get k = s'.get k := by
  constructor
  · intro h k hk
    cases k <;> first | exact absurd hk (by decide) | rw [get, h]; rfl
  · intro h
    have h₁ : s.discovery.maxResponseSize = s'.discovery.maxResponseSize := h .maxResponseSize rfl
    have h₂ : s.discovery.userAgent = s'.discovery.userAgent := h .userAgent rfl
    have h₃ : s.discovery.offlineProviders = s'.discovery.offlineProviders :=
      h .offlineProviders rfl
    cases hd : s.discovery
    cases hd' : s'.discovery
    simp_all

/-- A tree that can be a section is one as it is. -/
theorem Tree.section?_eq_some_iff {t u : Tree} : t.section? = some u ↔ u = t ∧ t.section?.isSome := by
  cases t <;> simp [Tree.section?, eq_comm]

/-- The value that a section gives to a setting. -/
def Key.valueIn? (k : Key) (t : Tree) : Option k.Value := k.value? (t.part? k.name k.position)

/-- Do the settings of a section take their values from what a tree gives for it? -/
def Fits (s : Settings) (name : String) (t : Tree) : Prop :=
  t.section?.isSome ∧ ∀ k : Key, k.sectionName = name → k.valueIn? t = some (s.get k)

theorem asProxy?_eq_some_iff {t : Tree} {s : Settings} :
    t.asProxy? = some s.proxy ↔ s.Fits "envoy" t := by
  simp only [Tree.asProxy?, Option.bind_eq_bind, Option.bind_eq_some_iff,
    Tree.section?_eq_some_iff, Option.pure_def, Option.some.injEq]
  constructor
  · rintro ⟨_, ⟨rfl, h⟩, a, ha, b, hb, c, hc, d, hd, e, he, f, hf, g, hg, hs⟩
    refine ⟨h, fun k hk => ?_⟩
    cases k <;> first | exact absurd hk (by decide) | rw [get, ← hs]; assumption
  · rintro ⟨h, hk⟩
    exact ⟨t, ⟨rfl, h⟩, _, hk .clusterName rfl, _, hk .connectTimeout rfl,
      _, hk .tokenTimeout rfl, _, hk .clientId rfl, _, hk .hmacSecretPath rfl,
      _, hk .tokenSecretPath rfl, _, hk .credentialsDir rfl, rfl⟩

theorem asDiscovery?_eq_some_iff {t : Tree} {s : Settings} :
    t.asDiscovery? = some s.discovery ↔ s.Fits "discovery" t := by
  simp only [Tree.asDiscovery?, Option.bind_eq_bind, Option.bind_eq_some_iff,
    Tree.section?_eq_some_iff, Option.pure_def, Option.some.injEq]
  constructor
  · rintro ⟨_, ⟨rfl, h⟩, a, ha, b, hb, c, hc, hs⟩
    refine ⟨h, fun k hk => ?_⟩
    cases k <;> first | exact absurd hk (by decide) | rw [get, ← hs]; assumption
  · rintro ⟨h, hk⟩
    exact ⟨t, ⟨rfl, h⟩, _, hk .maxResponseSize rfl, _, hk .userAgent rfl,
      _, hk .offlineProviders rfl, rfl⟩

theorem asOnly?_eq_some_iff {k : Key} {s : Settings}
    (honly : ∀ j : Key, j.sectionName = k.sectionName → j = k) (hk : k.position = 0) {t : Tree} :
    (t.section?.bind fun t => t.setting 0 k.name k.default k.read) = some (s.get k) ↔
      s.Fits k.sectionName t := by
  have hvalue : t.setting 0 k.name k.default k.read = k.valueIn? t := by
    rw [Key.valueIn?, hk]
    rfl
  rw [Option.bind_eq_some_iff]
  simp only [Tree.section?_eq_some_iff]
  constructor
  · rintro ⟨_, ⟨rfl, h⟩, hv⟩
    refine ⟨h, fun j hj => ?_⟩
    obtain rfl := honly j hj
    rw [← hvalue, hv]
  · rintro ⟨h, hv⟩
    exact ⟨t, ⟨rfl, h⟩, hvalue.trans (hv k rfl)⟩

/-- A section is read from what is given for it, or else all of its settings have their defaults. -/
theorem section_eq_some_iff {α : Type} {read : Tree → Option α} {otherwise a : α}
    (members : List (String × Tree)) {s : Settings} (name : String) (position : Nat)
    (hread : ∀ t, read t = some a ↔ s.Fits name t)
    (hdefault : otherwise = a ↔ ∀ k : Key, k.sectionName = name → k.default = s.get k) :
    (Tree.table members).setting position name otherwise read = some a ↔
      (∀ t ∈ List.lookup name members, t.section?.isSome) ∧ ∀ k : Key, k.sectionName = name →
        k.value? ((Tree.table members).given? k) = some (s.get k) := by
  have hgiven (k : Key) (hk : k.sectionName = name) : (Tree.table members).given? k =
      (List.lookup name members).bind (Tree.part? k.name k.position) := by
    rw [← hk]
    rfl
  rw [Tree.setting, Tree.part?]
  cases hm : List.lookup name members with
  | none =>
    rw [hm] at hgiven
    simp only [Option.some.injEq, hdefault]
    refine ⟨fun h => ⟨fun t ht => (by cases ht), fun k hk => ?_⟩, fun h k hk => ?_⟩
    · rw [hgiven k hk, ← h k hk]
      rfl
    · have hv := h.2 k hk
      rw [hgiven k hk] at hv
      exact Option.some.inj hv
  | some t =>
    rw [hm] at hgiven
    refine (hread t).trans (and_congr ?_ (forall₂_congr fun k hk => ?_))
    · exact ⟨fun h u hu => Option.some.inj hu ▸ h, fun h => h t rfl⟩
    · rw [hgiven k hk]
      rfl

theorem only_logLevel (k : Key) (h : k.sectionName = "logging") : k = .logLevel := by
  cases k <;> first | rfl | exact absurd h (by decide)

theorem only_format (k : Key) (h : k.sectionName = "output") : k = .format := by
  cases k <;> first | rfl | exact absurd h (by decide)

/-- **Settings are read one by one.** -/
theorem asSettings?_eq_some_iff {members : List (String × Tree)} {s : Settings} :
    (Tree.table members).asSettings? = some s ↔
      (∀ k : Key, ∀ t ∈ List.lookup k.sectionName members, t.section?.isSome) ∧
        ∀ k, k.value? ((Tree.table members).given? k) = some (s.get k) := by
  have hproxy := section_eq_some_iff members "envoy" 0
    (fun t => s.asProxy?_eq_some_iff) (proxy_eq_iff (s := {}))
  have hdiscovery := section_eq_some_iff members "discovery" 1
    (fun t => s.asDiscovery?_eq_some_iff) (discovery_eq_iff (s := {}))
  have hlogging := section_eq_some_iff members "logging" 2
    (fun t => asOnly?_eq_some_iff (s := s) (k := .logLevel) only_logLevel rfl)
    ⟨fun h k hk => only_logLevel k hk ▸ h, fun h => h .logLevel rfl⟩
  have houtput := section_eq_some_iff members "output" 3
    (fun t => asOnly?_eq_some_iff (s := s) (k := .format) only_format rfl)
    ⟨fun h k hk => only_format k hk ▸ h, fun h => h .format rfl⟩
  simp only [Tree.asSettings?, Option.bind_eq_bind, Option.bind_eq_some_iff, Option.pure_def,
    Option.some.injEq]
  constructor
  · rintro ⟨p, hp, d, hd, l, hl, f, hf, rfl⟩
    have hp := hproxy.1 hp
    have hd := hdiscovery.1 hd
    have hl := hlogging.1 hl
    have hf := houtput.1 hf
    constructor
    · intro k
      cases k <;> first | exact hp.1 | exact hd.1 | exact hl.1 | exact hf.1
    · intro k
      cases k <;> first | exact hp.2 _ rfl | exact hd.2 _ rfl | exact hl.2 _ rfl | exact hf.2 _ rfl
  · rintro ⟨h, hk⟩
    exact ⟨_, hproxy.2 ⟨h .clusterName, fun k _ => hk k⟩,
      _, hdiscovery.2 ⟨h .userAgent, fun k _ => hk k⟩,
      _, hlogging.2 ⟨h .logLevel, fun k _ => hk k⟩, _, houtput.2 ⟨h .format, fun k _ => hk k⟩, rfl⟩

end LoginGate.Settings
