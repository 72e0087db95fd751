import LoginGate.Compilation
import LoginGate.Proofs.Filter.ScriptTokens
import LoginGate.Proofs.Identity.Resolving
import LoginGate.Proofs.Policy.Joining

/-!
# What compiling a policy comes to

`Compiles` lists the outcomes of a compilation in the order in which they are ruled out: the policy
is not accepted, its URI is not resolved, the provider has no host, and a filter.  Once there are
endpoints only the host can be missing, as neither the joined policy nor the script can fail then.

    (c.compileFilter p).run fetch = ⟨result, asked⟩ ↔ Compiles c p fetch result asked

One compilation after another asks for the URIs of the policies that need a document
(`compilation_outcome`).
-/

namespace LoginGate

open LoginGate.Identity LoginGate.Filter LoginGate.Text

/-! ## Stages without documents -/

namespace Identity.Pass

variable {α β : Type} {p : Pass α} {fetch : Fetch} {result : Except CompileError α}
  {asked : List String}

/-- A stage that needs no document asks for nothing more. -/
theorem run_bind_ofExcept {f : α → Except CompileError β} (h : p.run fetch = ⟨result, asked⟩) :
    (p >>= fun a => ofExcept (f a)).run fetch = ⟨result >>= f, asked⟩ := by
  cases result with
  | error e =>
    rw [run_bind_error (by rw [h]), h]
    rfl
  | ok value =>
    rw [run_bind_ok (by rw [h]), h]
    exact congrArg (Outcome.mk (f value)) (List.append_nil asked)

theorem ofExcept_bind_pure (result : Except CompileError α) (f : α → β) :
    (ofExcept result >>= fun a => pure (f a)) = ofExcept (result.map f) := by
  cases result <;> rfl

theorem ofExcept_ok_bind (a : α) (next : α → Pass β) :
    (ofExcept (.ok a) >>= next).run fetch = (next a).run fetch := by
  have h : ((ofExcept (.ok a)).run fetch).result = .ok a := rfl
  rw [run_bind_ok h]
  rfl

end Identity.Pass

namespace Filter

/-- The script of a policy can always be written. -/
theorem exists_script (c : CompiledPolicy) : ∃ text, script (.ofPolicy c) = .ok text := by
  obtain ⟨lines, hw, hplaces, htext⟩ := outlined_scriptTemplateLines
  exact ⟨_, script_eq hw hplaces (toList_scriptTemplate.trans htext) c⟩

theorem exists_generate (s : ProxySettings) (c : CompiledPolicy) :
    ∃ filter, generate s c = .ok filter := by
  obtain ⟨text, h⟩ := exists_script c
  unfold generate
  rw [h]
  exact ⟨_, rfl⟩

end Filter

namespace NetworkTarget

/-- A target cannot be derived only if neither text names one. -/
theorem derive_eq (tokenEndpoint wellKnownURI : String) :
    (∃ target, derive tokenEndpoint wellKnownURI = .ok target) ∨
      derive tokenEndpoint wellKnownURI =
        .error (.configuration (.hostUnknown tokenEndpoint wellKnownURI)) := by
  unfold derive
  cases ofText? tokenEndpoint <|> ofText? wellKnownURI with
  | none => exact Or.inr rfl
  | some target => exact Or.inl ⟨target, rfl⟩

/-- Blank characters around the URI make no difference to the target. -/
theorem derive_of_trim {token uri : String} {target : NetworkTarget}
    (h : derive token (trim uri) = .ok target) : derive token uri = .ok target := by
  have htrim : ofText? (trim uri) = ofText? uri := by
    simp only [ofText?, trim, String.toList_ofList, trimChars_trimChars]
  unfold derive at h ⊢
  rw [htrim] at h
  split at h
  · exact h
  · cases h

end NetworkTarget

namespace Compiler

variable {c : Compiler} {p : Policy} {fetch : Fetch}

/-- The outcomes of compiling a policy: a result, and the URIs that were asked for. -/
inductive Compiles (c : Compiler) (p : Policy) (fetch : Fetch) :
    Except CompileError EnvoyFilter → List String → Prop
  | refused {e : CompileError} : p.check = .error e → Compiles c p fetch (.error e) []
  | unresolved {e : CompileError} {asked : List String} : p.check = .ok () →
      Resolves c.providers fetch (trim p.spec.wellKnownURI) (.error e) asked →
      Compiles c p fetch (.error e) asked
  | hostless {endpoints : Endpoints} {asked : List String} : p.check = .ok () →
      Resolves c.providers fetch (trim p.spec.wellKnownURI) (.ok endpoints) asked →
      NetworkTarget.derive endpoints.token (trim p.spec.wellKnownURI) =
        .error (.configuration (.hostUnknown endpoints.token (trim p.spec.wellKnownURI))) →
      Compiles c p fetch (.error (.configuration
        (.hostUnknown endpoints.token (trim p.spec.wellKnownURI)))) asked
  | compiled {endpoints : Endpoints} {target : NetworkTarget} {compiled : CompiledPolicy}
      {filter : EnvoyFilter} {asked : List String} : p.check = .ok () →
      Resolves c.providers fetch (trim p.spec.wellKnownURI) (.ok endpoints) asked →
      NetworkTarget.derive endpoints.token (trim p.spec.wellKnownURI) = .ok target →
      p.compiled endpoints target = .ok compiled → generate c.proxy compiled = .ok filter →
      Compiles c p fetch (.ok filter) asked

/-- Every compilation has one of the outcomes. -/
theorem exists_compiles (c : Compiler) (p : Policy) (fetch : Fetch) :
    ∃ result asked, Compiles c p fetch result asked := by
  cases hcheck : p.check with
  | error e => exact ⟨_, _, .refused hcheck⟩
  | ok _ =>
    obtain ⟨resolved, asked, hr⟩ := exists_resolves c.providers fetch (trim p.spec.wellKnownURI)
    cases resolved with
    | error e => exact ⟨_, _, .unresolved hcheck hr⟩
    | ok endpoints =>
      rcases NetworkTarget.derive_eq endpoints.token (trim p.spec.wellKnownURI) with
        ⟨target, ht⟩ | ht
      · obtain ⟨compiled, hc⟩ := Policy.exists_compiled hcheck endpoints target
        obtain ⟨filter, hf⟩ := exists_generate c.proxy compiled
        exact ⟨_, _, .compiled hcheck hr ht hc hf⟩
      · exact ⟨_, _, .hostless hcheck hr ht⟩

variable {resolved : Except CompileError Endpoints} {asked : List String}

theorem run_locate {uri : String}
    (h : Resolves c.providers fetch (trim uri) resolved asked) :
    (c.locate uri).run fetch = ⟨resolved >>= fun endpoints =>
      (NetworkTarget.derive endpoints.token (trim uri)).map fun target => (endpoints, target),
        asked⟩ := by
  rw [← trim_trim uri] at h
  have hrun := Pass.run_bind_ofExcept (f := fun endpoints : Endpoints =>
    (NetworkTarget.derive endpoints.token (trim uri)).map fun target => (endpoints, target))
    (run_resolve_iff.2 h)
  rw [← hrun]
  unfold locate
  simp only [Pass.ofExcept_bind_pure]

theorem run_compile (hcheck : p.check = .ok ())
    (h : Resolves c.providers fetch (trim p.spec.wellKnownURI) resolved asked) :
    (c.compile p).run fetch = ⟨do
      let endpoints ← resolved
      let target ← NetworkTarget.derive endpoints.token (trim p.spec.wellKnownURI)
      p.compiled endpoints target, asked⟩ := by
  have hrun := Pass.run_bind_ofExcept (f := fun located : Endpoints × NetworkTarget =>
    p.compiled located.1 located.2) (run_locate h)
  unfold compile
  rw [hcheck, Pass.ofExcept_ok_bind]
  refine hrun.trans (congrArg (Outcome.mk · asked) ?_)
  cases resolved with
  | error e => rfl
  | ok endpoints =>
    cases hd : NetworkTarget.derive endpoints.token (trim p.spec.wellKnownURI) <;>
      simp only [bind, Except.bind, Except.map, hd]

theorem run_compileFilter (hcheck : p.check = .ok ())
    (h : Resolves c.providers fetch (trim p.spec.wellKnownURI) resolved asked) :
    (c.compileFilter p).run fetch = ⟨(do
      let endpoints ← resolved
      let target ← NetworkTarget.derive endpoints.token (trim p.spec.wellKnownURI)
      p.compiled endpoints target) >>= generate c.proxy, asked⟩ :=
  Pass.run_bind_ofExcept (run_compile hcheck h)

theorem Compiles.run_eq {result : Except CompileError EnvoyFilter}
    (h : Compiles c p fetch result asked) : (c.compileFilter p).run fetch = ⟨result, asked⟩ := by
  cases h with
  | @refused e hcheck =>
    have hcompile : (c.compile p).run fetch = ⟨.error e, []⟩ := by
      unfold compile
      rw [hcheck]
      exact Pass.run_bind_error rfl
    exact Pass.run_bind_ofExcept hcompile
  | unresolved hcheck hr => exact run_compileFilter hcheck hr
  | hostless hcheck hr ht =>
    rw [run_compileFilter hcheck hr]
    simp only [bind, Except.bind, ht]
  | compiled hcheck hr ht hc hf =>
    rw [run_compileFilter hcheck hr]
    simp only [bind, Except.bind, ht, hc, hf]

/-- The stages that a document comes from. -/
theorem exists_stages {f : EnvoyFilter}
    (h : ((c.compileFilter p).run fetch).result = .ok f) : ∃ endpoints target compiled,
      ((resolve c.providers p.spec.wellKnownURI).run fetch).result = .ok endpoints ∧
      NetworkTarget.derive endpoints.token p.spec.wellKnownURI = .ok target ∧
      p.compiled endpoints target = .ok compiled ∧ generate c.proxy compiled = .ok f := by
  obtain ⟨result, asked, hc⟩ := exists_compiles c p fetch
  rw [hc.run_eq] at h
  cases hc with
  | refused _ => cases h
  | unresolved _ _ => cases h
  | hostless _ _ _ => cases h
  | compiled _ hr ht hc hf =>
    obtain rfl := Except.ok.inj h
    rw [← run_resolve_iff] at hr
    exact ⟨_, _, _, by rw [hr], NetworkTarget.derive_of_trim ht, hc, hf⟩

/-! ## One compilation after another -/

/-- What compilations ask for, one after another, each with answers of its own. -/
def sessionLog (c : Compiler) (session : List (Policy × Fetch)) : List String :=
  session.flatMap fun pass => ((c.compileFilter pass.1).run pass.2).asked

/-- Is a policy accepted, with a URI that no known provider has? -/
def needsDocument (c : Compiler) (p : Policy) : Prop :=
  p.check = .ok () ∧ trim p.spec.wellKnownURI ≠ "" ∧
    recognise c.providers (trim p.spec.wellKnownURI) = none

instance (c : Compiler) (p : Policy) : Decidable (c.needsDocument p) :=
  decidable_of_iff (p.check.isOk = true ∧ trim p.spec.wellKnownURI ≠ "" ∧
    (recognise c.providers (trim p.spec.wellKnownURI)).isNone = true) (by
      unfold needsDocument
      rw [Option.isNone_iff_eq_none]
      cases p.check <;> simp [Except.isOk, Except.toBool])

/-- One compilation asks for the URI of a policy that needs a document, and for nothing else. -/
theorem asked_compileFilter (c : Compiler) (p : Policy) (fetch : Fetch) :
    ((c.compileFilter p).run fetch).asked =
      if c.needsDocument p then [trim p.spec.wellKnownURI] else [] := by
  have hasked {resolved : Except CompileError Endpoints} {asked : List String}
      (hcheck : p.check = .ok ())
      (hr : Resolves c.providers fetch (trim p.spec.wellKnownURI) resolved asked) :
      asked = if c.needsDocument p then [trim p.spec.wellKnownURI] else [] := by
    rw [hr.asked_eq]
    exact if_congr (and_iff_right hcheck).symm rfl rfl
  obtain ⟨result, asked, h⟩ := exists_compiles c p fetch
  rw [h.run_eq]
  cases h with
  | refused hcheck =>
    rw [if_neg]
    rintro ⟨h, -⟩
    rw [hcheck] at h
    cases h
  | unresolved hcheck hr => exact hasked hcheck hr
  | hostless hcheck hr _ => exact hasked hcheck hr
  | compiled hcheck hr _ _ _ => exact hasked hcheck hr

/-- **What compiling a policy comes to.**  Every compilation has exactly the outcome that `Compiles`
lists for it, and compilations ask, one after another, for the trimmed URIs of the policies that
need a document, in order. -/
theorem compilation_outcome (c : Compiler) :
    (∀ p fetch result asked,
      (c.compileFilter p).run fetch = ⟨result, asked⟩ ↔ Compiles c p fetch result asked) ∧
    ∀ session, c.sessionLog session =
      (session.filter fun pass => c.needsDocument pass.1).map
        fun pass => trim pass.1.spec.wellKnownURI := by
  refine ⟨fun p fetch result asked => ⟨fun h => ?_, Compiles.run_eq⟩, fun session => ?_⟩
  · obtain ⟨result', asked', hc⟩ := exists_compiles c p fetch
    have he := hc.run_eq
    rw [h] at he
    obtain ⟨rfl, rfl⟩ := Outcome.mk.inj he
    exact hc
  · induction session with
    | nil => rfl
    | cons pass session ih =>
      have hcons : c.sessionLog (pass :: session) =
          ((c.compileFilter pass.1).run pass.2).asked ++ c.sessionLog session := rfl
      rw [hcons, asked_compileFilter, ih]
      by_cases h : c.needsDocument pass.1 <;> simp [h]

end Compiler

end LoginGate
