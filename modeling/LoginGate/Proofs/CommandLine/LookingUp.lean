import LoginGate.CommandLine.Directory
import LoginGate.CommandLine.Run
import LoginGate.Proofs.Filter.Consistency

/-!
# What is looked up is what is compiled

A command shows the endpoints and the network target of the provider at a URI, and another compiles
policies that name the URI.  For an accepted policy the two ask for the same documents and fail
alike, and what is shown is what the joined policy and its document hold:

    ((lookUp c uri).run fetch).result =
      ((c.compile p).run fetch).result.map fun joined => (joined.endpoints, joined.target)

The lines that are printed are those of the joined policy, spelled out (`locatedText_eq`,
`perform_resolve`).
-/

namespace LoginGate

open LoginGate.Text LoginGate.Identity LoginGate.Filter

/-! ## Documents -/

namespace Filter

/-- Does the document send the proxy to this target, and browsers and the proxy to these endpoints?
-/
structure EnvoyFilter.LeadsTo (f : EnvoyFilter) (endpoints : Endpoints) (target : NetworkTarget) :
    Prop where
  address : f.socketAt? "address" = some (.text target.host)
  port : f.socketAt? "port_value" = some (.ofNat target.port)
  encrypted : (f.clusterAt? ["transport_socket"]).isSome = true ↔ target.scheme = "https"
  authorize : f.loginAt? ["authorization_endpoint"] = some (.text endpoints.authorize)
  token : f.loginAt? ["token_endpoint", "uri"] = some (.text endpoints.token)
  endSession : f.loginAt? ["end_session_endpoint"] = some (.text (endpoints.endSession.getD ""))

theorem leadsTo_of_generate {s : ProxySettings} {c : CompiledPolicy} {f : EnvoyFilter}
    (h : generate s c = .ok f) : f.LeadsTo c.endpoints c.target := by
  obtain ⟨source, -, hpatches⟩ := exists_script_of_generate h
  have hcluster := EnvoyFilter.clusterAt?_eq hpatches
  have hlogin := EnvoyFilter.loginAt?_eq hpatches
  exact {
    address := hcluster _
    port := hcluster _
    encrypted := by
      rw [hcluster, Cluster.transport_socket]
      by_cases hs : c.target.scheme = "https"
      · simp [clusterOf, hs]
      · simp [clusterOf, hs]
    authorize := hlogin _
    token := (hlogin _).trans (LoginFilter.token_endpoint _).2
    endSession := hlogin _ }

end Filter

/-! ## Passes -/

namespace CommandLine

variable {c : Compiler} {fetch : Fetch}

theorem run_lookUp {uri : String} {resolved : Except CompileError Endpoints} {asked : List String}
    (h : Resolves c.providers fetch (trim uri) resolved asked) :
    (lookUp c uri).run fetch = ⟨resolved >>= fun endpoints =>
      (NetworkTarget.derive endpoints.token (trim uri)).map fun target => (endpoints, target),
        asked⟩ := by
  have hrun := Pass.run_bind_ofExcept (f := fun endpoints : Endpoints =>
    (NetworkTarget.derive endpoints.token (trim uri)).map fun target => (endpoints, target))
    (run_resolve_iff.2 h)
  rw [← hrun]
  unfold lookUp
  simp only [Pass.ofExcept_bind_pure]

/-- What is looked up for the URI of an accepted policy is what the policy is joined with. -/
theorem run_lookUp_eq {p : Policy} (hp : p.check = .ok ()) :
    (lookUp c p.spec.wellKnownURI).run fetch =
      ⟨((c.compile p).run fetch).result.map fun joined => (joined.endpoints, joined.target),
        ((c.compile p).run fetch).asked⟩ := by
  obtain ⟨resolved, asked, hr⟩ := exists_resolves c.providers fetch (trim p.spec.wellKnownURI)
  rw [run_lookUp hr, Compiler.run_compile hp hr]
  refine congrArg (Outcome.mk · asked) ?_
  cases resolved with
  | error e => rfl
  | ok endpoints =>
    show (NetworkTarget.derive endpoints.token (trim p.spec.wellKnownURI)).map _ =
      (NetworkTarget.derive endpoints.token (trim p.spec.wellKnownURI) >>= fun target =>
        p.compiled endpoints target).map _
    cases NetworkTarget.derive endpoints.token (trim p.spec.wellKnownURI) with
    | error e => rfl
    | ok target =>
      obtain ⟨joined, hjoined⟩ := Policy.exists_compiled hp endpoints target
      obtain ⟨hendpoints, htarget, -⟩ := Policy.fields_of_compiled hjoined
      show .ok (endpoints, target) = (p.compiled endpoints target).map _
      rw [hjoined, ← hendpoints, ← htarget]
      rfl

/-! ## Printed lines -/

theorem locatedText_eq (endpoints : Endpoints) (target : NetworkTarget) :
    locatedText endpoints target =
      "Authorize: " ++ endpoints.authorize ++ "\n" ++
      "Token: " ++ endpoints.token ++ "\n" ++
      "End session: " ++ endpoints.endSession.getD "(none)" ++ "\n" ++
      "Target: " ++ target.scheme ++ "://" ++ target.host ++ ":" ++ target.port.repr ++
        (if target.scheme = "https" then " (tls)" else " (plaintext)") ++ "\n" := by
  simp only [locatedText, labelled, NetworkTarget.text, NetworkTarget.tls, beq_iff_eq,
    String.append_assoc]
  rfl

/-- What is printed about the provider of an accepted policy is what the policy is joined with. -/
theorem perform_resolve (s : Settings) {p : Policy} (hp : p.check = .ok ()) {m : Type → Type}
    [Monad m] (w : Surroundings m) : w.perform s (.resolve p.spec.wellKnownURI) = pure (match (do
        let (client, c) ← connect s
        ((c.compile p).run fun uri => client.fetch uri (w.respond uri)).result) with
      | .ok joined => { output := locatedText joined.endpoints joined.target }
      | .error e => { status := 1, errors := "✗ " ++ e.message ++ "\n" }) := by
  rw [Surroundings.perform, resolvedText]
  cases connect s with
  | error e => rfl
  | ok connected =>
    obtain ⟨client, c⟩ := connected
    simp only [Except.mapError, bind, Except.bind, run_lookUp_eq hp]
    cases ((c.compile p).run fun uri => client.fetch uri (w.respond uri)).result <;> rfl

/-- The document of an accepted policy leads to what the policy is joined with. -/
theorem exists_filter_of_compile {p : Policy} {joined : CompiledPolicy}
    (h : ((c.compile p).run fetch).result = .ok joined) :
    ∃ f, ((c.compileFilter p).run fetch).result = .ok f ∧
      f.LeadsTo joined.endpoints joined.target := by
  obtain ⟨f, hf⟩ := exists_generate c.proxy joined
  have hcompile : (c.compile p).run fetch = ⟨.ok joined, ((c.compile p).run fetch).asked⟩ := by
    rw [← h]
  have hgenerated : (Except.ok joined >>= generate c.proxy) = .ok f :=
    bind_eq_ok_iff.2 ⟨joined, rfl, hf⟩
  have hrun : (c.compileFilter p).run fetch = ⟨.ok joined >>= generate c.proxy, _⟩ :=
    Pass.run_bind_ofExcept hcompile
  rw [hgenerated] at hrun
  exact ⟨f, congrArg Outcome.result hrun, leadsTo_of_generate hf⟩

theorem run_ofExcept_error {α β : Type} (e : CompileError) (next : α → Pass β) :
    (Pass.ofExcept (.error e) >>= next).run fetch = ⟨.error e, []⟩ := rfl

/-- **What is looked up is what is compiled.**  For every accepted policy, looking up its URI and
compiling it ask for the same documents, and either both fail with one error, or what is looked up
is the endpoints and the target of the joined policy.  The command prints these, on four lines, or
the error of the compilation; and the document of the policy leads to them. -/
theorem lookUp_agrees_with_compile (s : Settings) {p : Policy} (hp : p.check = .ok ()) :
    (∀ fetch shown compiled,
      (Pass.ofExcept (Compiler.ofSettings s) >>= fun c =>
        lookUp c p.spec.wellKnownURI).run fetch = shown →
      (Pass.ofExcept (Compiler.ofSettings s) >>= fun c => c.compile p).run fetch = compiled →
      shown.asked = compiled.asked ∧
      (∀ e, shown.result = .error e ↔ compiled.result = .error e) ∧
      ∀ found, shown.result = .ok found ↔
        ∃ joined, compiled.result = .ok joined ∧ found = (joined.endpoints, joined.target)) ∧
    (∀ {m : Type → Type} [Monad m] (w : Surroundings m),
      w.perform s (.resolve p.spec.wellKnownURI) = pure (match (do
          let (client, c) ← connect s
          ((c.compile p).run fun uri => client.fetch uri (w.respond uri)).result) with
        | .ok joined => { output :=
            "Authorize: " ++ joined.endpoints.authorize ++ "\n" ++
            "Token: " ++ joined.endpoints.token ++ "\n" ++
            "End session: " ++ joined.endpoints.endSession.getD "(none)" ++ "\n" ++
            "Target: " ++ joined.target.scheme ++ "://" ++ joined.target.host ++ ":" ++
              joined.target.port.repr ++
              (if joined.target.scheme = "https" then " (tls)" else " (plaintext)") ++ "\n" }
        | .error e => { status := 1, errors := "✗ " ++ e.message ++ "\n" })) ∧
    ∀ fetch c joined, Compiler.ofSettings s = .ok c →
      ((c.compile p).run fetch).result = .ok joined →
      ∃ f, ((c.compileFilter p).run fetch).result = .ok f ∧
        f.LeadsTo joined.endpoints joined.target := by
  refine ⟨?_, fun w => ?_, ?_⟩
  · rintro fetch _ _ rfl rfl
    cases Compiler.ofSettings s with
    | error e =>
      rw [run_ofExcept_error, run_ofExcept_error]
      simp
    | ok c =>
      rw [Pass.ofExcept_ok_bind, Pass.ofExcept_ok_bind, run_lookUp_eq hp]
      refine ⟨rfl, fun e => ?_, fun found => ?_⟩
      · cases ((c.compile p).run fetch).result <;> simp [Except.map]
      · rw [map_eq_ok_iff]
        exact exists_congr fun joined => and_congr_right' eq_comm
  · simp only [perform_resolve s hp w, locatedText_eq]
  · intro fetch c joined _ hjoined
    exact exists_filter_of_compile hjoined

/-- A policy whose URI stands between blanks. -/
def paddedPolicy : Policy := { spec := { wellKnownURI := " https://[::1]/endpoints\n" } }

/-- Its provider publishes endpoints without a host. -/
def hostlessResponse : Response := .received 200 ⟨none,
  "\x7B\"authorization_endpoint\": \"/authorize\",\"token_endpoint\": \"/token\"\x7D".toUTF8⟩

/-- The target is the host of the URI, where it is looked up and where it is compiled. -/
theorem lookUp_agrees_with_compile_padded : paddedPolicy.check = .ok () ∧
    (∃ client c joined, connect {} = .ok (client, c) ∧ joined.target = ⟨"https", "::1", 443⟩ ∧
      ((c.compile paddedPolicy).run fun uri => client.fetch uri hostlessResponse).result =
        .ok joined ∧
      (lookUp c paddedPolicy.spec.wellKnownURI).run (fun uri => client.fetch uri hostlessResponse) =
        ⟨.ok (joined.endpoints, joined.target), ["https://[::1]/endpoints"]⟩) ∧
    (Directory.surroundings "" [] fun _ => hostlessResponse).perform {}
        (.resolve paddedPolicy.spec.wellKnownURI) = pure { output :=
      "Authorize: /authorize\nToken: /token\nEnd session: (none)\nTarget: https://::1:443 (tls)\n" } := by
  let client : Client := ⟨1024 * 1024, "authgen/0.0.1"⟩
  let fetch : Fetch := fun uri => client.fetch uri hostlessResponse
  have hcheck : paddedPolicy.check = .ok () := rfl
  have hc : Compiler.ofSettings {} = .ok ⟨builtin, {}⟩ := rfl
  have hclient : Client.make (1024 * 1024) "authgen/0.0.1" = .ok client :=
    eq_ok_of_toOption (by decide +kernel)
  have hconnect : connect {} = .ok (client, ⟨builtin, {}⟩) := bind_eq_ok_iff.2 ⟨_, hclient, rfl⟩
  have htrim : trim paddedPolicy.spec.wellKnownURI = "https://[::1]/endpoints" := by
    decide +kernel
  have hunknown : recognise builtin "https://[::1]/endpoints" = none := by decide +kernel
  have hfetch : fetch "https://[::1]/endpoints" = .ok ⟨some "/authorize", some "/token", none⟩ :=
    eq_ok_of_toOption (by decide +kernel)
  have hendpoints : (⟨some "/authorize", some "/token", none⟩ : DiscoveryDocument).endpoints
      "https://[::1]/endpoints" = .ok ⟨"/authorize", "/token", none⟩ :=
    eq_ok_of_toOption (by decide +kernel)
  have htarget : NetworkTarget.derive "/token" "https://[::1]/endpoints" =
      .ok ⟨"https", "::1", 443⟩ := eq_ok_of_toOption (by decide +kernel)
  have hresolves : Resolves builtin fetch (trim paddedPolicy.spec.wellKnownURI)
      (.ok ⟨"/authorize", "/token", none⟩) ["https://[::1]/endpoints"] := by
    rw [htrim, ← hendpoints]
    exact .fetched (by decide) hunknown hfetch
  have hshown := run_lookUp (c := ⟨builtin, {}⟩) hresolves
  rw [htrim] at hshown
  simp only [bind, Except.bind, htarget, Except.map] at hshown
  obtain ⟨hpasses, hprinted, -⟩ := lookUp_agrees_with_compile {} hcheck
  obtain ⟨-, -, hfound⟩ := hpasses fetch _ _ rfl rfl
  rw [hc, Pass.ofExcept_ok_bind, Pass.ofExcept_ok_bind, hshown] at hfound
  obtain ⟨joined, hjoined, hpair⟩ := (hfound _).1 rfl
  obtain ⟨hjoinedEndpoints, hjoinedTarget⟩ := Prod.mk.inj hpair
  refine ⟨hcheck, ⟨client, _, joined, hconnect, hjoinedTarget.symm, hjoined, ?_⟩, ?_⟩
  · rw [hshown, ← hjoinedEndpoints, ← hjoinedTarget]
  · have hresult : (do
        let (client, c) ← connect {}
        ((c.compile paddedPolicy).run fun uri => client.fetch uri hostlessResponse).result) =
          .ok joined := bind_eq_ok_iff.2 ⟨_, hconnect, hjoined⟩
    rw [hprinted]
    refine congrArg pure ?_
    simp only [Directory.surroundings, Directory.surroundingsWith, hresult, ← hjoinedEndpoints,
      ← hjoinedTarget]
    decide +kernel

end CommandLine

end LoginGate
