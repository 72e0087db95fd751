import LoginGate.Proofs.CompilationPass
import LoginGate.Proofs.Filter.ScriptBindings
import LoginGate.Proofs.Json.Members

/-!
# Consistent documents

Some values reach a filter document by several ways: as fields of the cluster, as fields of the
login, and as text of the script.  `IsConsistent` says that they are the same wherever they arrive,
and every document that a compilation gives is consistent (`isConsistent_of_compileFilter`).

The places of a document are given by paths into it, and the values of the script by the names that
it binds.
-/

namespace LoginGate

open LoginGate.Text LoginGate.Identity LoginGate.Lua LoginGate.Access

/-! ## Consistency -/

namespace Filter.EnvoyFilter

variable (f : EnvoyFilter)

def scriptPath : List Json.Step :=
  ["spec", "configPatches", 0, "patch", "value", "typed_config", "default_source_code",
    "inline_string"]

def clusterPath : List Json.Step := ["spec", "configPatches", 1, "patch", "value"]

def loginPath : List Json.Step :=
  ["spec", "configPatches", 2, "patch", "value", "typed_config", "config"]

/-- What the cluster holds at a place. -/
def clusterAt? (path : List Json.Step) : Option Json := f.toJson.at? (clusterPath ++ path)

/-- What the address of the cluster's endpoint holds under a key. -/
def socketAt? (key : String) : Option Json :=
  f.clusterAt? ["load_assignment", "endpoints", 0, "lb_endpoints", 0, "endpoint", "address",
    "socket_address", key]

def loginAt? (path : List Json.Step) : Option Json := f.toJson.at? (loginPath ++ path)

/-- The names of the headers that some matchers of the login test, in order. -/
def testedHeaders (matchers : String) : List String :=
  ((f.loginAt? [matchers]).getD .null).items.filterMap fun m => m.member? "name" >>= Json.text?

/-- The value that the script binds a name to. -/
def bound? (name : String) : Option Value :=
  f.toJson.at? scriptPath >>= Json.text? >>= fun source => boundValue? source name

/-- The rule at a place of the table of requests that need a login. -/
def requireRule? (index : Nat) : Option Value :=
  match f.bound? "require_rules" with
  | some (.table rules _) => rules[index]?
  | _ => none

/-- Is every value that reaches the document by several ways the same wherever it arrives?  The
document is for the policy `p`, under the settings `s`, with the endpoints of its provider. -/
structure IsConsistent (s : Settings) (p : Policy) (endpoints : Endpoints) : Prop where
  clusterName : f.clusterAt? ["name"] = some (.text s.proxy.clusterName)
  assignedName :
    f.clusterAt? ["load_assignment", "cluster_name"] = some (.text s.proxy.clusterName)
  patchedService :
    f.toJson.at? ["spec", "configPatches", 1, "match", "cluster", "service"] =
      some (.text s.proxy.clusterName)
  tokenCluster : f.loginAt? ["token_endpoint", "cluster"] = some (.text s.proxy.clusterName)
  tokenEndpoint : f.loginAt? ["token_endpoint", "uri"] = some (.text endpoints.token)
  target : ∃ target, NetworkTarget.derive endpoints.token p.spec.wellKnownURI = .ok target ∧
    f.socketAt? "address" = some (.text target.host) ∧
    f.socketAt? "port_value" = some (.ofNat target.port) ∧
    ((f.clusterAt? ["transport_socket"]).isSome = true ↔ target.scheme = "https") ∧
    (target.scheme = "https" →
      f.clusterAt? ["transport_socket", "typed_config", "sni"] = f.socketAt? "address")
  deniedHeader : ∃ header, f.testedHeaders "deny_redirect_matcher" = [header] ∧
    f.bound? "deny_redirect_header" = some (.text (textBytes header))
  passedHeader : ∃ header, f.testedHeaders "pass_through_matcher" = ["authorization", header] ∧
    f.bound? "bypass_header" = some (.text (textBytes header))
  /-- The rule is the first one behind those that are declared. -/
  redirectPath : ∃ path, path = p.login.redirectPath ∧ path ≠ "" ∧
    f.loginAt? ["redirect_path_matcher", "path", "exact"] = some (.text path) ∧
    f.loginAt? ["redirect_uri"] = some (.text ("https://%REQ(:authority)%" ++ path)) ∧
    f.requireRule? p.declaredRules = some (record (textBytes (Access.compile path)) [])
  /-- The rule is the second one behind those that are declared. -/
  logoutPath : ∃ path, path = p.login.logoutPath ∧ path ≠ "" ∧
    f.loginAt? ["signout_path", "path", "exact"] = some (.text path) ∧
    f.requireRule? (p.declaredRules + 1) = some (record (textBytes (Access.compile path)) [])
  authorizationEndpoint :
    f.loginAt? ["authorization_endpoint"] = some (.text endpoints.authorize) ∧
    f.bound? "authorize_endpoint" = some (.text (textBytes endpoints.authorize))
  endSessionEndpoint :
    f.loginAt? ["end_session_endpoint"] = some (.text endpoints.endSessionOrEmpty) ∧
    f.bound? "end_session_endpoint" = some (.text (textBytes endpoints.endSessionOrEmpty))

end Filter.EnvoyFilter

/-! ## The parts of a document -/

namespace Filter

theorem exists_script_of_generate {s : ProxySettings} {c : CompiledPolicy} {f : EnvoyFilter}
    (h : generate s c = .ok f) : ∃ source, script (.ofPolicy c) = .ok source ∧
      f.patches = [.script source, .cluster (clusterOf s c), .login (loginOf s c)] := by
  obtain ⟨source, hs, h⟩ := bind_eq_ok_iff.1 h
  obtain rfl := Except.ok.inj h
  exact ⟨source, hs, rfl⟩

namespace EnvoyFilter

variable {f : EnvoyFilter} {source : String} {cluster : Cluster} {login : LoginFilter}
  (h : f.patches = [.script source, .cluster cluster, .login login])

include h

theorem at?_scriptPath : f.toJson.at? scriptPath = some (.text source) := by
  rw [toJson, h]
  rfl

theorem clusterAt?_eq (path : List Json.Step) : f.clusterAt? path = cluster.toJson.at? path := by
  rw [clusterAt?, Json.at?_append, toJson, h]
  rfl

theorem at?_service : f.toJson.at? ["spec", "configPatches", 1, "match", "cluster", "service"] =
    some (.text cluster.name) := by
  rw [toJson, h]
  rfl

theorem loginAt?_eq (path : List Json.Step) : f.loginAt? path = login.config.at? path := by
  rw [loginAt?, Json.at?_append, toJson, h]
  rfl

theorem bound?_eq (name : String) : f.bound? name = boundValue? source name := by
  rw [bound?, at?_scriptPath h]
  rfl

theorem testedHeaders_eq (matchers : String) : f.testedHeaders matchers =
    ((login.config.at? [matchers]).getD .null).items.filterMap
      fun m => m.member? "name" >>= Json.text? := by
  rw [testedHeaders, loginAt?_eq h]

theorem requireRule?_eq {c : CompiledPolicy} (hs : script (.ofPolicy c) = .ok source)
    (index : Nat) : f.requireRule? index = c.require[index]?.map Rule.value := by
  have hbound : f.bound? "require_rules" = some (.table (c.require.map Rule.value) []) := by
    rw [bound?_eq h]
    exact boundValue?_script hs (by decide)
  rw [requireRule?, hbound]
  exact List.getElem?_map

end EnvoyFilter

/-! ## The fields of clusters and logins -/

theorem Cluster.transport_socket (c : Cluster) : c.toJson.at? ["transport_socket"] =
    if c.target.scheme = "https" then some (encryptedTransport c.target.host) else none := by
  have htls : c.target.tls = decide (c.target.scheme = "https") := rfl
  unfold toJson
  rw [htls]
  by_cases hs : c.target.scheme = "https"
  · rw [decide_eq_true hs, if_pos hs]
    rfl
  · rw [decide_eq_false hs, if_neg hs]
    rfl

/-- The host of the cluster's endpoint is the one that an encrypted connection asks for. -/
theorem Cluster.sni {c : Cluster} (h : c.target.scheme = "https") :
    c.toJson.at? ["transport_socket", "typed_config", "sni"] = some (.text c.target.host) := by
  have hsplit := Json.at?_append c.toJson ["transport_socket"] ["typed_config", "sni"]
  rw [Cluster.transport_socket, if_pos h] at hsplit
  exact hsplit

/-- The field for the resources, which may be left out, does not hide those behind it. -/
theorem LoginFilter.behind_resources (f : LoginFilter) :
    f.config.at? ["signout_path"] = some (exactPath f.logoutPath) ∧
    f.config.at? ["token_endpoint"] = some (.object [("cluster", .text f.tokenCluster),
      ("timeout", .text f.tokenTimeout.secondsText), ("uri", .text f.endpoints.token)]) := by
  unfold config
  cases f.resources with
  | none => exact ⟨rfl, rfl⟩
  | some resources => exact ⟨rfl, rfl⟩

theorem LoginFilter.signout_path (f : LoginFilter) (path : List Json.Step) :
    f.config.at? ("signout_path" :: path) = (exactPath f.logoutPath).at? path := by
  rw [← List.singleton_append, Json.at?_append, f.behind_resources.1, Option.bind_some]

theorem LoginFilter.token_endpoint (f : LoginFilter) :
    f.config.at? ["token_endpoint", "cluster"] = some (.text f.tokenCluster) ∧
    f.config.at? ["token_endpoint", "uri"] = some (.text f.endpoints.token) := by
  have hsplit (key : String) : f.config.at? ["token_endpoint", key] =
      (f.config.at? ["token_endpoint"]).bind fun w => w.at? [key] :=
    Json.at?_append f.config ["token_endpoint"] [key]
  rw [hsplit, hsplit, f.behind_resources.2]
  exact ⟨rfl, rfl⟩

end Filter

/-! ## Compilations -/

/-- A document that is generated from a joined policy is consistent. -/
theorem Filter.isConsistent_of_generate {s : Settings} {p : Policy} {endpoints : Endpoints}
    {target : NetworkTarget} {c : CompiledPolicy} {f : EnvoyFilter}
    (ht : NetworkTarget.derive endpoints.token p.spec.wellKnownURI = .ok target)
    (hp : p.compiled endpoints target = .ok c) (hf : generate s.proxy c = .ok f) :
    f.IsConsistent s p endpoints := by
  obtain ⟨source, hs, hpatches⟩ := exists_script_of_generate hf
  obtain ⟨rfl, rfl, hredirect, hlogout⟩ := Policy.fields_of_compiled hp
  have hcluster := EnvoyFilter.clusterAt?_eq hpatches
  have hlogin := EnvoyFilter.loginAt?_eq hpatches
  have hheaders := EnvoyFilter.testedHeaders_eq hpatches
  have hbound {name : String} (hn : name ∈ ScriptValues.names) :
      f.bound? name = some (valueOf c name) := by
    rw [EnvoyFilter.bound?_eq hpatches, boundValue?_script hs hn]
  have hrule (i : Nat) : f.requireRule? (p.declaredRules + i) =
      c.ownPaths[i]?.map fun q => record (textBytes (Access.compile q)) [] := by
    rw [EnvoyFilter.requireRule?_eq hpatches hs, Policy.getElem?_require_of_compiled hp,
      Option.map_map]
    rfl
  exact {
    clusterName := hcluster _
    assignedName := hcluster _
    patchedService := EnvoyFilter.at?_service hpatches
    tokenCluster := (hlogin _).trans (LoginFilter.token_endpoint _).1
    tokenEndpoint := (hlogin _).trans (LoginFilter.token_endpoint _).2
    target := by
      have haddress : f.socketAt? "address" = some (.text c.target.host) := hcluster _
      refine ⟨c.target, ht, haddress, hcluster _, ?_, fun htls => ?_⟩
      · rw [hcluster, Cluster.transport_socket, Option.isSome_ite]
        rfl
      · exact ((hcluster _).trans (Cluster.sni htls)).trans haddress.symm
    deniedHeader := ⟨denyRedirectHeader, hheaders _, hbound (by decide)⟩
    passedHeader := ⟨bypassHeader, hheaders _, hbound (by decide)⟩
    redirectPath := by
      refine ⟨c.redirectPath, hredirect, ?_, hlogin _, hlogin _, hrule 0⟩
      rw [hredirect]
      exact p.redirectPath_ne
    logoutPath := by
      refine ⟨c.logoutPath, hlogout, ?_, ?_, hrule 1⟩
      · rw [hlogout]
        exact p.logoutPath_ne
      · exact (hlogin _).trans (LoginFilter.signout_path _ _)
    authorizationEndpoint := ⟨hlogin _, hbound (by decide)⟩
    endSessionEndpoint := ⟨hlogin _, hbound (by decide)⟩ }

/-- **Compiled documents are consistent.** -/
theorem isConsistent_of_compileFilter {s : Settings} {c : Compiler}
    (hc : Compiler.ofSettings s = .ok c) {p : Policy} {fetch : Fetch} {f : Filter.EnvoyFilter}
    (h : ((c.compileFilter p).run fetch).result = .ok f) :
    ∃ endpoints, ((resolve c.providers p.spec.wellKnownURI).run fetch).result = .ok endpoints ∧
      f.IsConsistent s p endpoints := by
  obtain ⟨endpoints, target, compiled, hr, ht, hp, hf⟩ := Compiler.exists_stages h
  obtain ⟨providers, -, hc⟩ := bind_eq_ok_iff.1 hc
  obtain rfl := Except.ok.inj hc
  exact ⟨endpoints, hr, Filter.isConsistent_of_generate ht hp hf⟩

/-- A policy whose provider publishes its endpoints. -/
def publishedPolicy : Policy := { spec := { wellKnownURI := "https://[::1]/endpoints" } }

def publishedEndpoints : Endpoints := ⟨"https://[::1]/authorize", "https://[::1]/token", none⟩

def publishedDocument : DiscoveryDocument :=
  ⟨some publishedEndpoints.authorize, some publishedEndpoints.token, none⟩

/-- With the built-in settings there is a document for this policy, and it is consistent. -/
theorem isConsistent_publishedPolicy : ∃ c, Compiler.ofSettings {} = .ok c ∧
    ∃ f, ((c.compileFilter publishedPolicy).run fun _ => .ok publishedDocument).result = .ok f ∧
      f.IsConsistent {} publishedPolicy publishedEndpoints := by
  have hc : Compiler.ofSettings {} = .ok ⟨builtin, {}⟩ := rfl
  have hcheck : publishedPolicy.check = .ok () := rfl
  have hset : trim publishedPolicy.spec.wellKnownURI ≠ "" := by decide +kernel
  have hunknown : recognise builtin (trim publishedPolicy.spec.wellKnownURI) = none := by
    decide +kernel
  have hendpoints : publishedDocument.endpoints (trim publishedPolicy.spec.wellKnownURI) =
      .ok publishedEndpoints := eq_ok_of_toOption (by decide +kernel)
  have hresolves : Resolves builtin (fun _ => .ok publishedDocument)
      (trim publishedPolicy.spec.wellKnownURI) (.ok publishedEndpoints)
      [trim publishedPolicy.spec.wellKnownURI] := by
    rw [← hendpoints]
    exact .fetched hset hunknown rfl
  obtain ⟨target, htarget⟩ : ∃ target, NetworkTarget.derive publishedEndpoints.token
      (trim publishedPolicy.spec.wellKnownURI) = .ok target :=
    ⟨⟨"https", "::1", 443⟩, eq_ok_of_toOption (by decide +kernel)⟩
  obtain ⟨compiled, hcompiled⟩ := Policy.exists_compiled hcheck publishedEndpoints target
  obtain ⟨f, hf⟩ := Filter.exists_generate {} compiled
  have hrun := (Compiler.Compiles.compiled (c := ⟨builtin, {}⟩) hcheck hresolves htarget hcompiled
    hf).run_eq
  have h := congrArg Outcome.result hrun
  obtain ⟨endpoints, he, hconsistent⟩ := isConsistent_of_compileFilter hc h
  rw [run_resolve_iff.2 hresolves] at he
  obtain rfl := Except.ok.inj he
  exact ⟨_, hc, f, h, hconsistent⟩

end LoginGate
