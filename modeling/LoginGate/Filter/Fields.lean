import LoginGate.Filter.Basic
import LoginGate.Filter.Script
import LoginGate.Json.Basic
import LoginGate.OutputFormat
import LoginGate.Yaml.Writer

/-!
# The fields of a filter document

`EnvoyFilter.toJson` lays a document out as nested fields, in the order in which such documents are
conventionally written.  Every output format writes this one value.
-/

namespace LoginGate.Filter

/-- A field that is left out if it has no value. -/
def fieldOf (name : String) (value : Option Json) : List (String × Json) :=
  match value with
  | some v => [(name, v)]
  | none => []

/-- An object with one text field `name`. -/
def named (name : String) : Json := .object [("name", .text name)]

/-- A value that an exact text matches. -/
def exactly (s : String) : Json := .object [("exact", .text s)]

def exactPath (path : String) : Json := .object [("path", exactly path)]

/-- A header and what its value has to be. -/
def headerMatch (name : String) (match_ : Json) : Json :=
  .object [("name", .text name), ("string_match", match_)]

/-- A secret that is read from a file, again whenever a directory changes. -/
def secret (name path directory : String) : Json :=
  .object [("name", .text name), ("sds_config", .object [("path_config_source", .object
    [("path", .text path), ("watched_directory", .object [("path", .text directory)])])])]

/-- The place of a patch among the HTTP filters of inbound requests, in front of `before` if that is
given. -/
def inboundHttpFilter (before : Option String) : Json :=
  .object [("context", .text "SIDECAR_INBOUND"),
    ("listener", .object [("filterChain", .object [("filter", .object
      ([("name", .text "envoy.filters.network.http_connection_manager")] ++
        fieldOf "subFilter" (before.map named)))])])]

/-- A patch: what it applies to, where, and what it does. -/
def patchOf (applyTo : String) (place : Json) (operation : String) (value : Json) : Json :=
  .object [("applyTo", .text applyTo), ("match", place),
    ("patch", .object [("operation", .text operation), ("value", value)])]

/-- An HTTP filter with its configuration. -/
def httpFilter (name type : String) (config : String × Json) : Json :=
  .object [("name", .text name), ("typed_config", .object [("@type", .text type), config])]

def scriptFilter (source : String) : Json :=
  httpFilter "envoy.filters.http.lua"
    "type.googleapis.com/envoy.extensions.filters.http.lua.v3.Lua"
    ("default_source_code", .object [("inline_string", .text source)])

/-- The transport of an encrypted connection to a host. -/
def encryptedTransport (host : String) : Json :=
  .object [("name", .text "envoy.transport_sockets.tls"),
    ("typed_config", .object
      [("@type", .text
          "type.googleapis.com/envoy.extensions.transport_sockets.tls.v3.UpstreamTlsContext"),
        ("sni", .text host)])]

/-- A cluster with one endpoint. -/
def Cluster.toJson (c : Cluster) : Json :=
  .object ([("connect_timeout", .text c.connectTimeout.secondsText),
    ("dns_lookup_family", .text "V4_ONLY"),
    ("lb_policy", .text "ROUND_ROBIN"),
    ("load_assignment", .object [("cluster_name", .text c.name),
      ("endpoints", .list [.object [("lb_endpoints", .list [.object [("endpoint", .object
        [("address", .object [("socket_address", .object
          [("address", .text c.target.host), ("port_value", .ofNat c.target.port)])])])]])]])]),
    ("name", .text c.name)] ++
    fieldOf "transport_socket"
      (if c.target.tls then some (encryptedTransport c.target.host) else none) ++
    [("type", .text "LOGICAL_DNS")])

def LoginFilter.config (f : LoginFilter) : Json :=
  .object ([("auth_scopes", .list (f.scopes.map .text)),
    ("authorization_endpoint", .text f.endpoints.authorize),
    ("credentials", .object [("client_id", .text f.clientId),
      ("hmac_secret", secret "hmac" f.hmacSecretPath f.credentialsDir),
      ("token_secret", secret "token" f.tokenSecretPath f.credentialsDir)]),
    ("deny_redirect_matcher", .list [headerMatch denyRedirectHeader (exactly "true")]),
    ("end_session_endpoint", .text f.endpoints.endSessionOrEmpty),
    ("forward_bearer_token", .bool true),
    ("pass_through_matcher", .list
      [headerMatch "authorization" (.object [("prefix", .text "Bearer ")]),
        headerMatch bypassHeader (exactly "true")]),
    ("redirect_path_matcher", exactPath f.redirectPath),
    ("redirect_uri", .text ("https://%REQ(:authority)%" ++ f.redirectPath))] ++
    fieldOf "resources" (f.resources.map fun resources => .list (resources.map .text)) ++
    [("retry_policy", .object []),
    ("signout_path", exactPath f.logoutPath),
    ("token_endpoint", .object [("cluster", .text f.tokenCluster),
      ("timeout", .text f.tokenTimeout.secondsText), ("uri", .text f.endpoints.token)]),
    ("use_refresh_token", .bool true)])

def LoginFilter.toJson (f : LoginFilter) : Json :=
  httpFilter "envoy.filters.http.oauth2"
    "type.googleapis.com/envoy.extensions.filters.http.oauth2.v3.OAuth2" ("config", f.config)

def Patch.toJson : Patch → Json
  | script source =>
    patchOf "HTTP_FILTER" (inboundHttpFilter none) "INSERT_BEFORE" (scriptFilter source)
  | cluster c =>
    patchOf "CLUSTER" (.object [("cluster", .object [("service", .text c.name)])]) "ADD" c.toJson
  | login f =>
    patchOf "HTTP_FILTER" (inboundHttpFilter (some "envoy.filters.http.jwt_authn")) "INSERT_BEFORE"
      f.toJson

def EnvoyFilter.toJson (f : EnvoyFilter) : Json :=
  .object [("apiVersion", .text "networking.istio.io/v1alpha3"), ("kind", .text "EnvoyFilter"),
    ("metadata", .object ([("name", .text f.name)] ++
      fieldOf "namespace" (f.namespaceName.map .text))),
    ("spec", .object [("configPatches", .list (f.patches.map Patch.toJson)),
      ("workloadSelector", .object
        [("labels", .object (KeyMap.mapValues .text f.workloadLabels))])])]

/-! ## Documents as texts -/

def writeAs : OutputFormat → Json → String
  | .yaml, value => Yaml.write value
  | .json, value => value.pretty ++ "\n"

def EnvoyFilter.write (format : OutputFormat) (f : EnvoyFilter) : String := writeAs format f.toJson

end LoginGate.Filter
