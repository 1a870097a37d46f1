import ComposeLint.Image
import ComposeLint.Port
import ComposeLint.Mount
import ComposeLint.Environment

/-!
# Services

The one shape to which every way of writing a service is reduced. Rules see services only in
this shape.
-/

namespace ComposeLint

/-- When a stopped container is started again. -/
inductive RestartPolicy where
  | never | always | onFailure | unlessStopped
  deriving DecidableEq, Repr

namespace RestartPolicy

/-- The known policies by the names that a manifest uses. -/
def names : List (String × RestartPolicy) :=
  [("no", never), ("always", always), ("on-failure", onFailure), ("unless-stopped", unlessStopped)]

/-- The name of a policy in a manifest. -/
def name : RestartPolicy → String
  | never => "no"
  | always => "always"
  | onFailure => "on-failure"
  | unlessStopped => "unless-stopped"

end RestartPolicy

/-- A restart policy, or a text that refers to a variable. -/
inductive RestartSetting where
  | policy (policy : RestartPolicy)
  | unresolved (expression : String)
  deriving DecidableEq, Repr

/-- The setting that a text gives. What follows the first colon, such as a retry count, is not
kept. -/
def RestartSetting.parse? (written : String) : Option RestartSetting :=
  let cs := written.toList
  if Substitution.occursIn cs then some (.unresolved (String.ofList (Text.trim cs)))
  else
    let name := Text.trim (cs.takeWhile (· != ':'))
    (RestartPolicy.names.lookup (String.ofList name)).map .policy

/-- A service of a manifest. -/
structure Service where
  name : String
  image : Option Image := none
  privileged : Bool := false
  /-- Names of added capabilities, trimmed, in capitals and without `CAP_`, each once. -/
  capabilitiesAdded : List String := []
  command : Option String := none
  networkMode : Option String := none
  volumeMounts : List Mount := []
  environment : Table EnvValue := .empty
  user : Option String := none
  /-- Security options without blanks around them, each once. -/
  securityOptions : List String := []
  ports : List PortBinding := []
  restartPolicy : Option RestartSetting := none
  /-- Networks that the service names, each once. -/
  explicitNetworks : List String := []
  dependsOn : List String := []
  hasHealthcheck : Bool := false

/-- The canonical name of a capability. -/
def capabilityName (written : String) : String :=
  let capitals := Text.upper (Text.trim written.toList)
  String.ofList (if "CAP_".toList.isPrefixOf capitals then capitals.drop 4 else capitals)

/-- A network that a manifest declares. -/
structure Network where
  name : String
  /-- Whether the network is managed outside of the manifest. -/
  isExternal : Bool
  driver : Option String
  deriving DecidableEq, Repr

/-- A manifest after reading. -/
structure Document where
  path : String
  services : Table Service
  networks : Table Network
  /-- Names of declared volumes, each once. -/
  volumes : List String

/-- The document in which there is nothing to audit. -/
def Document.empty (path : String) : Document :=
  { path, services := .empty, networks := .empty, volumes := [] }

end ComposeLint
