import LoginGate.Identity.Resolution
import LoginGate.Proofs.Text.Runs

/-!
# What resolving a URI comes to

`Resolves` lists the outcomes of a resolution: no URI, a known provider, a document that cannot be
had, and a document.  Only the last two ask for anything, and they ask for the URI alone:

    (resolve providers uri).run fetch = ⟨result, asked⟩ ↔
      Resolves providers fetch (trim uri) result asked                      (run_resolve_iff)
-/

namespace LoginGate.Identity

open LoginGate.Text

/-- The outcomes of resolving a trimmed URI: a result, and the URIs that were asked for. -/
inductive Resolves (providers : List Provider) (fetch : Fetch) (uri : String) :
    Except CompileError Endpoints → List String → Prop
  | unset : uri = "" → Resolves providers fetch uri (.error (.configuration .uriUnset)) []
  | known {name : String} {endpoints : Endpoints} : uri ≠ "" →
      recognise providers uri = some (name, endpoints) →
      Resolves providers fetch uri (.ok endpoints) []
  | unfetched {e : CompileError} : uri ≠ "" → recognise providers uri = none →
      fetch uri = .error e → Resolves providers fetch uri (.error e) [uri]
  | fetched {d : DiscoveryDocument} : uri ≠ "" → recognise providers uri = none →
      fetch uri = .ok d → Resolves providers fetch uri (d.endpoints uri) [uri]

variable {providers : List Provider} {fetch : Fetch} {uri : String}
  {result : Except CompileError Endpoints} {asked : List String}

theorem exists_resolves (providers : List Provider) (fetch : Fetch) (uri : String) :
    ∃ result asked, Resolves providers fetch uri result asked := by
  by_cases hu : uri = ""
  · exact ⟨_, _, .unset hu⟩
  cases hr : recognise providers uri with
  | some found =>
    obtain ⟨name, endpoints⟩ := found
    exact ⟨_, _, .known hu hr⟩
  | none =>
    cases hf : fetch uri with
    | error e => exact ⟨_, _, .unfetched hu hr hf⟩
    | ok d => exact ⟨_, _, .fetched hu hr hf⟩

theorem Resolves.run_eq (h : Resolves providers fetch (trim uri) result asked) :
    (resolve providers uri).run fetch = ⟨result, asked⟩ := by
  unfold resolve
  dsimp only
  cases h with
  | unset hu =>
    rw [if_pos (by rw [hu]; rfl)]
    rfl
  | known hu hr =>
    rw [if_neg (by simpa using hu), hr]
    rfl
  | unfetched hu hr hf =>
    rw [if_neg (by simpa using hu), hr]
    exact Pass.run_bind_error hf
  | fetched hu hr hf =>
    rw [if_neg (by simpa using hu), hr]
    exact Pass.run_bind_ok hf

/-- **What resolving a URI comes to.** -/
theorem run_resolve_iff : (resolve providers uri).run fetch = ⟨result, asked⟩ ↔
    Resolves providers fetch (trim uri) result asked := by
  constructor
  · intro h
    obtain ⟨result', asked', hr⟩ := exists_resolves providers fetch (trim uri)
    have he := hr.run_eq
    rw [h] at he
    obtain ⟨rfl, rfl⟩ := Outcome.mk.inj he
    exact hr
  · exact Resolves.run_eq

/-- What is asked for is the URI itself, when there is one and no known provider has it. -/
theorem Resolves.asked_eq (h : Resolves providers fetch uri result asked) :
    asked = if uri ≠ "" ∧ recognise providers uri = none then [uri] else [] := by
  cases h with
  | unset hu => rw [if_neg fun h => h.1 hu]
  | known hu hr =>
    rw [if_neg]
    rintro ⟨-, h⟩
    rw [hr] at h
    cases h
  | unfetched hu hr hf => rw [if_pos ⟨hu, hr⟩]
  | fetched hu hr hf => rw [if_pos ⟨hu, hr⟩]

end LoginGate.Identity
