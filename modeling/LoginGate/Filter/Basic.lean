import LoginGate.KeyMap
import LoginGate.Time.Duration
import LoginGate.Identity.Endpoints

/-!
# The generated filter

An EnvoyFilter is a list of patches to the proxy of some workloads.  The ones generated here are of
three kinds: the script that sorts requests, the cluster of the identity provider, and the filter
that logs browsers in.
-/

namespace LoginGate.Filter

/-- The cluster through which the proxy reaches the identity provider. -/
structure Cluster where
  name : String
  connectTimeout : Duration
  target : NetworkTarget
  deriving DecidableEq, Inhabited

/-- The filter that logs browsers in. -/
structure LoginFilter where
  scopes : List String
  endpoints : Endpoints
  clientId : String
  hmacSecretPath : String
  tokenSecretPath : String
  credentialsDir : String
  redirectPath : String
  logoutPath : String
  resources : Option (List String)
  /-- The cluster that the token endpoint is reached through. -/
  tokenCluster : String
  tokenTimeout : Duration
  deriving DecidableEq, Inhabited

/-- A change to the configuration of the proxy. -/
inductive Patch where
  /-- The script in front of all HTTP filters. -/
  | script (source : String)
  | cluster (cluster : Cluster)
  /-- The login in front of the filter that checks tokens. -/
  | login (filter : LoginFilter)
  deriving DecidableEq, Inhabited

structure EnvoyFilter where
  name : String
  namespaceName : Option String
  patches : List Patch
  workloadLabels : KeyMap String
  deriving DecidableEq, Inhabited

end LoginGate.Filter
