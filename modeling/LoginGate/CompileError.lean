import LoginGate.Access.Rule
import LoginGate.Json.Writer

/-!
# What ends a compilation

A compilation gives a whole document or one error.  An error is a cause; `message` words it, and
`kind` sorts it by where it arose.
-/

namespace LoginGate

/-- Why there is no discovery document. -/
inductive FetchFault where
  /-- No response, or a body that breaks off. -/
  | unreachable
  | status (code : Nat)
  | tooLarge (limit : Nat)
  | malformed
  | notAnObject
  | stated (reason : String)
  deriving Repr

/-- What is wrong with a policy or with the settings it is compiled under. -/
inductive ConfigurationFault where
  | documentInvalid
  | parameterNotScalar (key : String) (found : Json)
  | rulePath (text : String) (fault : Access.PathFault)
  | resourcesNotAList (found : Json)
  | resourceNotAText (found : Json)
  | uriUnset
  | hostUnknown (tokenEndpoint wellKnownURI : String)
  | patternInvalid (provider : String)
  | patternWithoutBase (provider : String)
  | userAgentRefused
  | stated (text : String)
  deriving Repr

/-- Why a compilation ends without a document. -/
inductive CompileError where
  | configuration (fault : ConfigurationFault)
  | discoveryFetch (uri : String) (fault : FetchFault)
  | discoveryIncomplete (uri : String) (missing : List String)
  | serialization (text : String)
  deriving Repr

/-- The reason in words, empty where there is none to give. -/
def FetchFault.reason? : FetchFault → Option String
  | unreachable => none
  | status code => some ("HTTP status " ++ code.repr)
  | tooLarge limit => some ("response exceeds maximum size of " ++ limit.repr ++ " bytes")
  | malformed => some "malformed discovery document"
  | notAnObject => some "malformed discovery document: expected a JSON object"
  | stated reason => some reason

def ConfigurationFault.message : ConfigurationFault → String
  | documentInvalid => "invalid policy document"
  | parameterNotScalar key found =>
    "invalid policy document: value of `" ++ key ++ "` must be a scalar, got " ++
      found.compact
  | rulePath text fault => "invalid path " ++ text ++ ": " ++ fault.message
  | resourcesNotAList found =>
    "spec.acceptedResources must be a list of strings, got " ++ found.compact
  | resourceNotAText found =>
    "spec.acceptedResources must contain only strings, got " ++ found.compact
  | uriUnset => "spec.wellKnownURI must be set on AuthPolicy"
  | hostUnknown tokenEndpoint wellKnownURI =>
    "could not determine identity provider host from token_endpoint=" ++ tokenEndpoint ++
      " or wellKnownURI=" ++ wellKnownURI
  | patternInvalid provider => "invalid pattern for known provider " ++ provider
  | patternWithoutBase provider =>
    "pattern for known provider " ++ provider ++ " has no `base` capture group"
  | userAgentRefused => "failed to create HTTP client: builder error"
  | stated text => text

namespace CompileError

/-- A short name for where the error arose. -/
def kind : CompileError → String
  | configuration _ => "config"
  | discoveryFetch _ _ => "discovery_fetch"
  | discoveryIncomplete _ _ => "discovery_validation"
  | serialization _ => "serialization"

def message : CompileError → String
  | configuration fault => "Configuration error: " ++ fault.message
  | discoveryFetch uri fault =>
    "Failed to fetch discovery document from " ++ uri ++
      (match fault.reason? with | some reason => ": " ++ reason | none => "")
  | discoveryIncomplete uri missing =>
    "Discovery document at " ++ uri ++ " is missing required fields: " ++
      ", ".intercalate missing
  | serialization text => "Serialization error: " ++ text

/-- Does the error come from the identity provider? -/
def isDiscovery : CompileError → Bool
  | discoveryFetch _ _ => true
  | discoveryIncomplete _ _ => true
  | _ => false

end CompileError

end LoginGate
