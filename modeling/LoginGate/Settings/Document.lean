import LoginGate.Settings.Basic
import LoginGate.Time.Written
import LoginGate.Toml.Quoted

/-!
# Settings as a TOML document

All settings in effect are written, section by section, so that the document reads back as the same
settings.
-/

namespace LoginGate

/-- The binding of a key on a line of its own. -/
def bindingLine (key value : String) : String := key ++ " = " ++ value ++ "\n"

/-- The binding of a key to a text. -/
def textLine (key value : String) : String :=
  bindingLine key (String.ofList (Toml.quoted value.toList))

def ProxySettings.document (s : ProxySettings) : String :=
  "[envoy]\n" ++ textLine "cluster_name" s.clusterName ++
    textLine "connect_timeout" s.connectTimeout.written ++
    textLine "token_timeout" s.tokenTimeout.written ++ textLine "client_id" s.clientId ++
    textLine "hmac_secret_path" s.hmacSecretPath ++
    textLine "token_secret_path" s.tokenSecretPath ++ textLine "credentials_dir" s.credentialsDir

def ProviderSettings.document (s : ProviderSettings) : String :=
  "\n[[discovery.offline_providers]]\n" ++ textLine "name" s.name ++ textLine "pattern" s.pattern ++
    textLine "authorize_suffix" s.authorizeSuffix ++ textLine "token_suffix" s.tokenSuffix ++
    (match s.endSessionSuffix with
      | some suffix => textLine "end_session_suffix" suffix
      | none => "")

def DiscoverySettings.document (s : DiscoverySettings) : String :=
  "[discovery]\n" ++ bindingLine "max_response_size" s.maxResponseSize.repr ++
    textLine "user_agent" s.userAgent ++
    (if s.offlineProviders.isEmpty then bindingLine "offline_providers" "[]"
      else String.join (s.offlineProviders.map ProviderSettings.document))

def Settings.document (s : Settings) : String :=
  s.proxy.document ++ "\n" ++ s.discovery.document ++ "\n[logging]\n" ++
    textLine "level" s.logLevel ++ "\n[output]\n" ++ textLine "format" s.format.name

end LoginGate
