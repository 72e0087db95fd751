import LoginGate.Identity.Provider
import LoginGate.Text.Blank

/-!
# Which settings are accepted

Texts that are needed are not blank, times and sizes are not zero, every provider has a name and a
pattern with a group `base`, and the level of the log is known.  The first fault in this order is
reported.
-/

namespace LoginGate

open LoginGate.Text

/-! ## Faults -/

/-- Why there are no settings. -/
inductive SettingsFault where
  /-- A file that cannot be read, or a value that is not of the kind that is needed. -/
  | unreadable
  | blankSetting (name : String)
  | zeroTimeout
  | zeroResponseSize
  | providerWithoutName
  | providerPatternInvalid (name : String)
  | providerPatternWithoutBase (name : String)
  | unknownLevel
  | unknownFormat (word : String)
  deriving DecidableEq, Repr

def logLevels : List String := ["trace", "debug", "info", "warn", "error", "off"]

namespace SettingsFault

/-- A short name for the step that failed. -/
def kind : SettingsFault → String
  | unreadable => "parse"
  | _ => "validation"

def reason : SettingsFault → String
  | unreadable => ""
  | blankSetting name => name ++ " must not be empty"
  | zeroTimeout => "envoy timeouts must be > 0"
  | zeroResponseSize => "discovery.max_response_size must be > 0"
  | providerWithoutName => "discovery.offline_providers entries need a name"
  | providerPatternInvalid name =>
    "discovery.offline_providers[" ++ name ++ "].pattern is invalid"
  | providerPatternWithoutBase name =>
    "discovery.offline_providers[" ++ name ++ "].pattern must define a `base` group"
  | unknownLevel =>
    "logging.level must be one of [" ++
      ", ".intercalate (logLevels.map fun level => "\"" ++ level ++ "\"") ++ "]"
  | unknownFormat word =>
    "unknown output format '" ++ word ++ "', expected yaml or json"

def message : SettingsFault → String
  | unreadable => "Parse error"
  | fault => "Validation error: " ++ fault.reason

end SettingsFault

/-! ## Checks -/

/-- A text that is needed. -/
def checkText (name value : String) : Except SettingsFault Unit :=
  if isBlankText value then .error (.blankSetting name) else .ok ()

def ProxySettings.check (s : ProxySettings) : Except SettingsFault Unit := do
  checkText "envoy.cluster_name" s.clusterName
  checkText "envoy.client_id" s.clientId
  if s.connectTimeout.isZero || s.tokenTimeout.isZero then throw .zeroTimeout
  checkText "envoy.hmac_secret_path" s.hmacSecretPath
  checkText "envoy.token_secret_path" s.tokenSecretPath
  checkText "envoy.credentials_dir" s.credentialsDir

def ProviderSettings.check (s : ProviderSettings) : Except SettingsFault Unit :=
  if isBlankText s.name then .error .providerWithoutName
  else match Pattern.ofText? s.pattern with
    | none => .error (.providerPatternInvalid s.name)
    | some pattern =>
      if "base" ∈ pattern.groupNames then .ok () else .error (.providerPatternWithoutBase s.name)

def DiscoverySettings.check (s : DiscoverySettings) : Except SettingsFault Unit := do
  if s.maxResponseSize = 0 then throw .zeroResponseSize
  s.offlineProviders.forM ProviderSettings.check

def isLogLevel (level : String) : Bool :=
  logLevels.contains (String.ofList (lowerAscii level.toList))

/-- The fault of the settings, if they have one. -/
def Settings.check (s : Settings) : Except SettingsFault Unit := do
  s.proxy.check
  s.discovery.check
  if !isLogLevel s.logLevel then throw .unknownLevel

def OutputFormat.ofWord (word : String) : Except SettingsFault OutputFormat :=
  match ofWord? word with
  | some format => .ok format
  | none => .error (.unknownFormat (String.ofList (lowerAscii word.toList)))

end LoginGate
