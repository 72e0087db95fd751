import LoginGate.Filter.Basic
import LoginGate.Filter.Script
import LoginGate.Settings.Basic

/-!
# The filter of a policy

Three patches in a fixed order: the script, the cluster, the login.
-/

namespace LoginGate.Filter

def clusterOf (s : ProxySettings) (c : CompiledPolicy) : Cluster where
  name := s.clusterName
  connectTimeout := s.connectTimeout
  target := c.target

def loginOf (s : ProxySettings) (c : CompiledPolicy) : LoginFilter where
  scopes := c.scopes
  endpoints := c.endpoints
  clientId := s.clientId
  hmacSecretPath := s.hmacSecretPath
  tokenSecretPath := s.tokenSecretPath
  credentialsDir := s.credentialsDir
  redirectPath := c.redirectPath
  logoutPath := c.logoutPath
  resources := c.acceptedResources
  tokenCluster := s.clusterName
  tokenTimeout := s.tokenTimeout

/-- The filter of a policy. -/
def generate (s : ProxySettings) (c : CompiledPolicy) : Except CompileError EnvoyFilter := do
  let source ← script (.ofPolicy c)
  return {
    name := c.filterName
    namespaceName := c.namespaceName
    patches := [.script source, .cluster (clusterOf s c), .login (loginOf s c)]
    workloadLabels := c.workloadLabels }

end LoginGate.Filter
