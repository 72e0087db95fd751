import LoginGate.Filter.Fields
import LoginGate.Identity.Response
import LoginGate.Proofs.Filter.Consistency
import LoginGate.Proofs.Json.Written
import LoginGate.Proofs.Yaml.WrittenEvents

/-!
# Both formats carry the document

A document is a tidy value (`tidy_toJson`), nested at most fourteen deep, so either format is read
back as just that value (`formats_carry_document`): its texts are texts again, whatever they look
like, and what it leaves out is left out.
-/

namespace LoginGate.Filter

open LoginGate.Json LoginGate.Number

variable {depth : Nat}

/-! ## Objects and lists -/

theorem tidy_single (key : String) {v : Json} (h : v.Tidy depth) :
    (Json.object [(key, v)]).Tidy (depth + 1) :=
  .object (List.pairwise_singleton _ _) fun _ hm => List.mem_singleton.1 hm ▸ h

theorem tidy_fields {fields : List (String × Json)} (keys : List String)
    (hkeys : fields.map Prod.fst = keys) (hascending : keys.Pairwise (· < ·))
    (h : fields.Forall fun field => field.2.Tidy depth) : (Json.object fields).Tidy (depth + 1) := by
  refine .object ?_ (List.forall_iff_forall_mem.1 h)
  rw [← hkeys] at hascending
  exact List.pairwise_map.1 hascending

theorem tidy_items {items : List Json} (h : items.Forall fun v => v.Tidy depth) :
    (Json.list items).Tidy (depth + 1) := .list (List.forall_iff_forall_mem.1 h)

theorem tidy_texts (texts : List String) : (Json.list (texts.map .text)).Tidy (depth + 1) := by
  refine .list fun v hv => ?_
  obtain ⟨s, -, rfl⟩ := List.mem_map.1 hv
  exact .text s

theorem tidy_labels {labels : KeyMap String} (h : labels.Ascending) :
    (Json.object (labels.mapValues .text)).Tidy (depth + 1) := by
  refine .object (List.pairwise_map.2 h) fun m hm => ?_
  obtain ⟨label, -, rfl⟩ := List.mem_map.1 hm
  exact .text label.2

/-! ## Parts of patches -/

theorem tidy_exactly (s : String) : (exactly s).Tidy (depth + 1) := tidy_single "exact" (.text s)

theorem tidy_exactPath (path : String) : (exactPath path).Tidy (depth + 2) :=
  tidy_single "path" (tidy_exactly path)

theorem tidy_headerMatch (name : String) {match_ : Json} (h : match_.Tidy depth) :
    (headerMatch name match_).Tidy (depth + 1) :=
  tidy_fields ["name", "string_match"] rfl (by decide) ⟨.text name, h⟩

theorem tidy_secret (name path directory : String) :
    (secret name path directory).Tidy (depth + 4) := by
  have hsource : (Json.object [("path", .text path),
      ("watched_directory", .object [("path", .text directory)])]).Tidy (depth + 2) :=
    tidy_fields ["path", "watched_directory"] rfl (by decide)
      ⟨.text path, tidy_single "path" (.text directory)⟩
  exact tidy_fields ["name", "sds_config"] rfl (by decide)
    ⟨.text name, tidy_single "path_config_source" hsource⟩

theorem tidy_inboundHttpFilter (before : Option String) :
    (inboundHttpFilter before).Tidy (depth + 5) := by
  have hfilter : (Json.object ([("name", .text "envoy.filters.network.http_connection_manager")] ++
      fieldOf "subFilter" (before.map named))).Tidy (depth + 2) := by
    cases before with
    | none => exact tidy_single "name" (.text _)
    | some name =>
      exact tidy_fields ["name", "subFilter"] rfl (by decide)
        ⟨.text _, tidy_single "name" (.text name)⟩
  exact tidy_fields ["context", "listener"] rfl (by decide)
    ⟨.text _, tidy_single "filterChain" (tidy_single "filter" hfilter)⟩

theorem tidy_patchOf (applyTo operation : String) {place value : Json}
    (hplace : place.Tidy (depth + 1)) (hvalue : value.Tidy depth) :
    (patchOf applyTo place operation value).Tidy (depth + 2) :=
  tidy_fields ["applyTo", "match", "patch"] rfl (by decide) ⟨.text applyTo, hplace,
    tidy_fields ["operation", "value"] rfl (by decide) ⟨.text operation, hvalue⟩⟩

theorem tidy_httpFilter (name type : String) {key : String} (hkey : "@type" < key) {config : Json}
    (h : config.Tidy depth) : (httpFilter name type (key, config)).Tidy (depth + 2) := by
  have hconfig : (Json.object [("@type", .text type), (key, config)]).Tidy (depth + 1) :=
    tidy_fields ["@type", key] rfl (List.pairwise_pair.2 hkey) ⟨.text type, h⟩
  exact tidy_fields ["name", "typed_config"] rfl (by decide) ⟨.text name, hconfig⟩

theorem tidy_encryptedTransport (host : String) : (encryptedTransport host).Tidy (depth + 2) :=
  tidy_fields ["name", "typed_config"] rfl (by decide)
    ⟨.text _, tidy_fields ["@type", "sni"] rfl (by decide) ⟨.text _, .text host⟩⟩

/-! ## Patches -/

theorem Cluster.tidy_toJson {c : Cluster} (hport : c.target.port < 65536) :
    c.toJson.Tidy (depth + 9) := by
  have hsocket : (Json.object [("address", .text c.target.host),
      ("port_value", .ofNat c.target.port)]).Tidy (depth + 1) :=
    tidy_fields ["address", "port_value"] rfl (by decide)
      ⟨.text _, .number (Nat.lt_trans hport (by decide))⟩
  have hendpoints := @tidy_items _ [_] (tidy_single "lb_endpoints" (@tidy_items _ [_]
    (tidy_single "endpoint" (tidy_single "address" (tidy_single "socket_address" hsocket)))))
  have hassignment : (Json.object [("cluster_name", .text c.name), ("endpoints", _)]).Tidy _ :=
    tidy_fields ["cluster_name", "endpoints"] rfl (by decide) ⟨.text c.name, hendpoints⟩
  unfold toJson
  cases c.target.tls with
  | true =>
    exact tidy_fields ["connect_timeout", "dns_lookup_family", "lb_policy", "load_assignment", "name",
      "transport_socket", "type"] rfl (by decide) ⟨.text _, .text _, .text _, hassignment, .text _,
        tidy_encryptedTransport c.target.host, .text _⟩
  | false =>
    exact tidy_fields ["connect_timeout", "dns_lookup_family", "lb_policy", "load_assignment", "name",
      "type"] rfl (by decide) ⟨.text _, .text _, .text _, hassignment, .text _, .text _⟩

theorem LoginFilter.tidy_config (f : LoginFilter) : f.config.Tidy (depth + 6) := by
  have hcredentials : (Json.object [("client_id", .text f.clientId),
      ("hmac_secret", secret "hmac" f.hmacSecretPath f.credentialsDir),
      ("token_secret", secret "token" f.tokenSecretPath f.credentialsDir)]).Tidy (depth + 5) :=
    tidy_fields ["client_id", "hmac_secret", "token_secret"] rfl (by decide)
      ⟨.text _, tidy_secret _ _ _, tidy_secret _ _ _⟩
  have hdenied : (Json.list [headerMatch denyRedirectHeader (exactly "true")]).Tidy (depth + 5) :=
    @tidy_items _ [_] (tidy_headerMatch _ (tidy_exactly _))
  have hpassed : (Json.list [headerMatch "authorization" (.object [("prefix", .text "Bearer ")]),
      headerMatch bypassHeader (exactly "true")]).Tidy (depth + 5) :=
    tidy_items ⟨tidy_headerMatch _ (tidy_single "prefix" (.text _)),
      tidy_headerMatch _ (tidy_exactly _)⟩
  have hretries : (Json.object []).Tidy (depth + 5) := .object .nil fun _ hm => nomatch hm
  have htoken : (Json.object [("cluster", .text f.tokenCluster),
      ("timeout", .text f.tokenTimeout.secondsText), ("uri", .text f.endpoints.token)]).Tidy
        (depth + 5) :=
    tidy_fields ["cluster", "timeout", "uri"] rfl (by decide) ⟨.text _, .text _, .text _⟩
  unfold config
  cases f.resources with
  | none =>
    exact tidy_fields ["auth_scopes", "authorization_endpoint", "credentials",
      "deny_redirect_matcher", "end_session_endpoint", "forward_bearer_token",
      "pass_through_matcher", "redirect_path_matcher", "redirect_uri", "retry_policy",
      "signout_path", "token_endpoint", "use_refresh_token"] rfl (by decide)
      ⟨tidy_texts _, .text _, hcredentials, hdenied, .text _, .bool _, hpassed, tidy_exactPath _,
        .text _, hretries, tidy_exactPath _, htoken, .bool _⟩
  | some resources =>
    exact tidy_fields ["auth_scopes", "authorization_endpoint", "credentials",
      "deny_redirect_matcher", "end_session_endpoint", "forward_bearer_token",
      "pass_through_matcher", "redirect_path_matcher", "redirect_uri", "resources", "retry_policy",
      "signout_path", "token_endpoint", "use_refresh_token"] rfl (by decide)
      ⟨tidy_texts _, .text _, hcredentials, hdenied, .text _, .bool _, hpassed, tidy_exactPath _,
        .text _, tidy_texts resources, hretries, tidy_exactPath _, htoken, .bool _⟩

/-- The port that a patch names, if any, is one. -/
def Patch.NamesPort : Patch → Prop
  | cluster c => c.target.port < 65536
  | _ => True

theorem Patch.tidy_toJson {p : Patch} (h : p.NamesPort) : p.toJson.Tidy (depth + 11) := by
  cases p with
  | script source =>
    exact tidy_patchOf _ _ (tidy_inboundHttpFilter none)
      (tidy_httpFilter _ _ (by decide) (tidy_single "inline_string" (.text source)))
  | cluster c =>
    exact tidy_patchOf _ _ (tidy_single "cluster" (tidy_single "service" (.text c.name)))
      (c.tidy_toJson h)
  | login f =>
    exact tidy_patchOf _ _ (tidy_inboundHttpFilter _) (tidy_httpFilter _ _ (by decide) f.tidy_config)

/-! ## Documents -/

/-- A document is tidy if its labels ascend and its ports are ports. -/
theorem EnvoyFilter.tidy_toJson {f : EnvoyFilter} (hlabels : f.workloadLabels.Ascending)
    (hports : ∀ p ∈ f.patches, p.NamesPort) : f.toJson.Tidy (depth + 14) := by
  have hmetadata : (Json.object ([("name", .text f.name)] ++
      fieldOf "namespace" (f.namespaceName.map .text))).Tidy (depth + 13) := by
    cases f.namespaceName with
    | none => exact tidy_single "name" (.text _)
    | some name => exact tidy_fields ["name", "namespace"] rfl (by decide) ⟨.text _, .text name⟩
  have hpatches : (Json.list (f.patches.map Patch.toJson)).Tidy (depth + 12) := by
    refine .list fun v hv => ?_
    obtain ⟨p, hp, rfl⟩ := List.mem_map.1 hv
    exact p.tidy_toJson (hports p hp)
  have hspec : (Json.object [("configPatches", .list (f.patches.map Patch.toJson)),
      ("workloadSelector", .object [("labels", .object (f.workloadLabels.mapValues .text))])]).Tidy
        (depth + 13) :=
    tidy_fields ["configPatches", "workloadSelector"] rfl (by decide)
      ⟨hpatches, tidy_single "labels" (tidy_labels hlabels)⟩
  exact tidy_fields ["apiVersion", "kind", "metadata", "spec"] rfl (by decide)
    ⟨.text _, .text _, hmetadata, hspec⟩

theorem EnvoyFilter.read_write {f : EnvoyFilter} (hlabels : f.workloadLabels.Ascending)
    (hports : ∀ p ∈ f.patches, p.NamesPort) :
    Yaml.value? (f.write .yaml) = some f.toJson ∧
      Json.read? Identity.nestingLimit (f.write .json) = some f.toJson :=
  ⟨Yaml.value?_write (tidy_toJson hlabels hports),
    read?_pretty (tidy_toJson hlabels hports) (Nat.le_refl _)⟩

theorem EnvoyFilter.read_write_of_generate {s : ProxySettings} {c : CompiledPolicy} {f : EnvoyFilter}
    (hlabels : c.workloadLabels.Ascending) (hport : c.target.port < 65536)
    (h : generate s c = .ok f) :
    Yaml.value? (f.write .yaml) = some f.toJson ∧
      Json.read? Identity.nestingLimit (f.write .json) = some f.toJson := by
  obtain ⟨source, -, hf⟩ := bind_eq_ok_iff.1 h
  obtain rfl := Except.ok.inj hf
  exact read_write hlabels (List.forall_iff_forall_mem.1 ⟨trivial, hport, trivial⟩)

theorem LoginFilter.at?_resources (f : LoginFilter) : f.config.at? ["resources"] =
    f.resources.map fun resources => .list (resources.map .text) := by
  unfold config
  cases f.resources with
  | none => rfl
  | some resources => rfl

/-- **Both formats carry the document.**  For every filter that is generated, the text in YAML and the
text in JSON are read back as one value, and that is the document itself, text for text.  It holds the
script as it was filled in, and a field that may be absent is there if it has a value.  Labels ascend
and ports have sixteen bits in every policy that is read and compiled
(`labels_and_port_of_compiled`). -/
theorem formats_carry_document {s : ProxySettings} {c : CompiledPolicy} {f : EnvoyFilter}
    (hlabels : c.workloadLabels.Ascending) (hport : c.target.port < 65536)
    (h : generate s c = .ok f) :
    Yaml.value? (f.write .yaml) = some f.toJson ∧
      Json.read? Identity.nestingLimit (f.write .json) = some f.toJson ∧
      (∃ source, script (.ofPolicy c) = .ok source ∧
        f.toJson.at? EnvoyFilter.scriptPath = some (.text source)) ∧
      f.toJson.at? ["metadata", "namespace"] = c.namespaceName.map .text ∧
      f.clusterAt? ["transport_socket"] =
        (if c.target.scheme = "https" then some (encryptedTransport c.target.host) else none) ∧
      f.loginAt? ["resources"] =
        c.acceptedResources.map fun resources => .list (resources.map .text) := by
  obtain ⟨hyaml, hjson⟩ := EnvoyFilter.read_write_of_generate hlabels hport h
  obtain ⟨source, hsource, hf⟩ := bind_eq_ok_iff.1 h
  obtain rfl := Except.ok.inj hf
  let patches : List Patch := [.script source, .cluster (clusterOf s c), .login (loginOf s c)]
  let f : EnvoyFilter := ⟨c.filterName, c.namespaceName, patches, c.workloadLabels⟩
  have hpatches : f.patches = [.script source, .cluster (clusterOf s c), .login (loginOf s c)] := rfl
  have hnamespace : f.toJson.at? ["metadata", "namespace"] = f.namespaceName.map .text := by
    unfold EnvoyFilter.toJson
    cases f.namespaceName with
    | none => rfl
    | some name => rfl
  exact ⟨hyaml, hjson, ⟨source, hsource, EnvoyFilter.at?_scriptPath hpatches⟩, hnamespace,
    (EnvoyFilter.clusterAt?_eq hpatches _).trans (Cluster.transport_socket _),
    (EnvoyFilter.loginAt?_eq hpatches _).trans (LoginFilter.at?_resources _)⟩

/-- A policy whose namespace and labels look like numbers and truth values. -/
def wordyPolicy : CompiledPolicy :=
  { (default : CompiledPolicy) with
    namespaceName := some "1e3"
    target := ⟨"https", "::1", 443⟩
    workloadLabels := [("0x10", "~"), ("true", "no")] }

/-- Its namespace is a text again. -/
theorem formats_carry_wordyPolicy : ∃ f, generate {} wordyPolicy = .ok f ∧
    Yaml.value? (f.write .yaml) = some f.toJson ∧
    Json.read? Identity.nestingLimit (f.write .json) = some f.toJson ∧
    f.toJson.at? ["metadata", "namespace"] = some (.text "1e3") := by
  obtain ⟨f, hf⟩ := exists_generate {} wordyPolicy
  have hlabels : wordyPolicy.workloadLabels.Ascending := List.pairwise_pair.2 (by decide)
  have hport : wordyPolicy.target.port < 65536 := by decide
  obtain ⟨hyaml, hjson, -, hnamespace, -⟩ := formats_carry_document hlabels hport hf
  exact ⟨f, hf, hyaml, hjson, hnamespace⟩

end LoginGate.Filter
