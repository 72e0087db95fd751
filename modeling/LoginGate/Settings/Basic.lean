import LoginGate.OutputFormat
import LoginGate.Time.Duration

/-!
# Settings

What a compilation takes from outside its policy, with the built-in defaults.
-/

namespace LoginGate

/-- What is said about the proxy. -/
structure ProxySettings where
  /-- The cluster through which the proxy reaches the identity provider. -/
  clusterName : String := "oauth"
  connectTimeout : Duration := .ofSeconds 10
  /-- The time that the proxy waits for a token. -/
  tokenTimeout : Duration := .ofSeconds 5
  clientId : String := "entraid_server"
  hmacSecretPath : String := "/etc/istio/config/hmac-secret.yaml"
  tokenSecretPath : String := "/etc/istio/config/token-secret.yaml"
  /-- The directory that is watched for new secrets. -/
  credentialsDir : String := "/etc/istio/config"
  deriving DecidableEq, Inhabited

/-- A provider that is recognised by the pattern of its URIs. -/
structure ProviderSettings where
  name : String
  pattern : String
  authorizeSuffix : String := "/authorize"
  tokenSuffix : String := "/token"
  endSessionSuffix : Option String := none
  deriving DecidableEq, Repr, Inhabited

/-- What is said about finding a provider's endpoints. -/
structure DiscoverySettings where
  /-- The greatest discovery document that is read, in bytes. -/
  maxResponseSize : Nat := 1024 * 1024
  userAgent : String := "authgen/0.0.1"
  offlineProviders : List ProviderSettings := []
  deriving DecidableEq, Repr, Inhabited

structure Settings where
  proxy : ProxySettings := {}
  discovery : DiscoverySettings := {}
  logLevel : String := "info"
  format : OutputFormat := .yaml
  deriving DecidableEq, Inhabited

end LoginGate
