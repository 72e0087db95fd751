import LoginGate.Number.Shortest
import LoginGate.Settings.Basic
import LoginGate.Settings.Tree
import LoginGate.Time.Written

/-!
# Settings from a tree

Every setting that is not given has its default.  Scalars are taken for one another where that makes
sense: any of them is a text, and a text, a truth value or a fraction may be a count.  A section may
also be a list of its settings in order.  A setting that is not known does not count.
-/

namespace LoginGate.Settings

open LoginGate.Text LoginGate.Number

/-! ## Scalars -/

def Tree.asText? : Tree → Option String
  | .text s => some s
  | .flag b => some (if b then "true" else "false")
  | .whole z => some (if z < 0 then "-" ++ z.natAbs.repr else z.natAbs.repr)
  | .real x => some (String.ofList x.plainText)
  | _ => none

/-- The number that no count reaches. -/
def countLimit : Nat := twoTo 64

/-- The count nearest to a number; what is not a number counts as zero. -/
def nearestCount : Extended → Nat
  | .finite x => if x.negative then 0 else min x.roundAway (countLimit - 1)
  | .infinite negative => if negative then 0 else countLimit - 1
  | .notANumber => 0

/-- The count that a text writes, or the one of a word for yes or no. -/
def countOfText? (s : String) : Option Nat :=
  let word := String.ofList (lowerAscii s.toList)
  if word ∈ ["true", "on", "yes"] then some 1
  else if word ∈ ["false", "off", "no"] then some 0
  else
    let digits := match s.toList with
      | '+' :: rest => rest
      | digits => digits
    (decimalValue? digits).filter (· < countLimit)

def Tree.asCount? : Tree → Option Nat
  | .whole z => if 0 ≤ z then some z.toNat else none
  | .text s => countOfText? s
  | .flag b => some (if b then 1 else 0)
  | .real x => some (nearestCount x)
  | _ => none

def Tree.asDuration? (t : Tree) : Option Duration := t.asText? >>= Duration.ofWritten?

/-- The format of that very name. -/
def exactFormat? (name : String) : Option OutputFormat :=
  if name = OutputFormat.yaml.name then some .yaml
  else if name = OutputFormat.json.name then some .json
  else none

/-- A format: its name, or a table with its name as the only key. -/
def Tree.asFormat? : Tree → Option OutputFormat
  | .text s => exactFormat? s
  | .table [(key, _)] => exactFormat? key
  | _ => none

/-! ## Sections -/

/-- What a section gives for a setting: by its name in a table, by its position in a list. -/
def Tree.part? (name : String) (position : Nat) : Tree → Option Tree
  | .table members => List.lookup name members
  | .list items => items[position]?
  | _ => none

/-- A setting of a section, or its default. -/
def Tree.setting {α : Type} (t : Tree) (position : Nat) (name : String) (otherwise : α)
    (read : Tree → Option α) : Option α :=
  match t.part? name position with
  | none => some otherwise
  | some value => read value

/-- A tree that can be a section. -/
def Tree.section? (t : Tree) : Option Tree :=
  match t with
  | .table _ => some t
  | .list _ => some t
  | _ => none

def Tree.asProxy? (t : Tree) : Option ProxySettings := do
  let t ← t.section?
  let d : ProxySettings := {}
  return {
    clusterName := ← t.setting 0 "cluster_name" d.clusterName Tree.asText?
    connectTimeout := ← t.setting 1 "connect_timeout" d.connectTimeout Tree.asDuration?
    tokenTimeout := ← t.setting 2 "token_timeout" d.tokenTimeout Tree.asDuration?
    clientId := ← t.setting 3 "client_id" d.clientId Tree.asText?
    hmacSecretPath := ← t.setting 4 "hmac_secret_path" d.hmacSecretPath Tree.asText?
    tokenSecretPath := ← t.setting 5 "token_secret_path" d.tokenSecretPath Tree.asText?
    credentialsDir := ← t.setting 6 "credentials_dir" d.credentialsDir Tree.asText? }

def Tree.asOptionalText? : Tree → Option (Option String)
  | .absent => some none
  | t => t.asText?.map some

/-- The settings of a provider; its name and its pattern have to be there. -/
def Tree.asProvider? (t : Tree) : Option ProviderSettings := do
  let t ← t.section?
  return {
    name := ← (← t.part? "name" 0).asText?
    pattern := ← (← t.part? "pattern" 1).asText?
    authorizeSuffix := ← t.setting 2 "authorize_suffix" "/authorize" Tree.asText?
    tokenSuffix := ← t.setting 3 "token_suffix" "/token" Tree.asText?
    endSessionSuffix := ← t.setting 4 "end_session_suffix" none Tree.asOptionalText? }

def Tree.asProviders? : Tree → Option (List ProviderSettings)
  | .list items => items.mapM Tree.asProvider?
  | _ => none

def Tree.asDiscovery? (t : Tree) : Option DiscoverySettings := do
  let t ← t.section?
  let d : DiscoverySettings := {}
  return {
    maxResponseSize := ← t.setting 0 "max_response_size" d.maxResponseSize Tree.asCount?
    userAgent := ← t.setting 1 "user_agent" d.userAgent Tree.asText?
    offlineProviders := ← t.setting 2 "offline_providers" d.offlineProviders Tree.asProviders? }

def Tree.asSettings? (t : Tree) : Option Settings := do
  let d : Settings := {}
  return {
    proxy := ← t.setting 0 "envoy" d.proxy Tree.asProxy?
    discovery := ← t.setting 1 "discovery" d.discovery Tree.asDiscovery?
    logLevel := ← t.setting 2 "logging" d.logLevel fun t => do
      (← t.section?).setting 0 "level" d.logLevel Tree.asText?
    format := ← t.setting 3 "output" d.format fun t => do
      (← t.section?).setting 0 "format" d.format Tree.asFormat? }

end LoginGate.Settings
