import ComposeLint.Rule.Basic

/-!
# Rules on what reaches a container

Host networking, the default network, networks from outside of the manifest, and published
ports.
-/

namespace ComposeLint.Rule

/-- The service shares the network of the host. -/
def hostNetwork : Rule where
  id := "host-network"
  name := "Host network mode"
  category := networkSecurity
  description := "Host networking removes network isolation between container and host"
  remediation := "Use a bridge network and publish only the required ports"
  inspection := perService fun service _ =>
    hitIf (service.networkMode == some "host") .medium (about service "uses host network mode")

/-- The service names no network and no network mode. -/
def implicitDefaultNetwork : Rule where
  id := "implicit-default-network"
  name := "Implicit default network"
  category := networkSecurity
  description := "Services on the default network can reach every other service in the project"
  remediation := "Attach the service to an explicit, purpose-specific network"
  inspection := perService fun service _ =>
    hitIf (service.explicitNetworks.isEmpty && service.networkMode.isNone) .low
      (about service "uses the default network (consider an explicit network)")

/-- The manifest declares a network that is managed elsewhere. -/
def externalNetworks : Rule where
  id := "external-networks"
  name := "External network declared"
  category := networkSecurity
  description := "External networks are managed outside this manifest and may be shared"
  remediation := "Review who else is attached to the external network"
  inspection := .document fun context =>
    .ok ((context.document.networks.values.filter (·.isExternal)).map fun network =>
      ⟨.info, "Network '" ++ network.name ++ "' is external; ensure it is properly secured"⟩)

/-- The first sensitive port of the table that lies in a range. An unresolved side has none. -/
def sensitivePort? (sensitive : List Nat) : PortSide → Option Nat
  | .literal range => sensitive.find? fun port => range.first ≤ port && port ≤ range.last
  | .unresolved _ => none

/-- The hits on one binding: for its interface, then for a sensitive port. -/
def bindingHits (service : Service) (tables : RuleTables) (binding : PortBinding) : List Hit :=
  let sensitive :=
    (sensitivePort? tables.sensitivePorts binding.containerPort).or
      (binding.hostPort.bind (sensitivePort? tables.sensitivePorts))
  hitIf (tables.allInterfaceAddresses.contains binding.hostInterface) .medium
      (about service ("exposes port " ++ binding.text ++ " to all interfaces")) ++
    match sensitive with
    | some port => [⟨.medium, about service ("exposes sensitive port " ++ toString port)⟩]
    | none => []

/-- A port is published on every interface, or is a sensitive one. -/
def exposedPorts : Rule where
  id := "exposed-ports"
  name := "Exposed ports"
  category := networkSecurity
  description :=
    "Ports published on every interface, or well-known admin/database ports, " ++
      "widen the attack surface"
  remediation :=
    "Bind published ports to 127.0.0.1 or a specific interface, " ++
      "and avoid publishing admin ports"
  inspection := perService fun service tables =>
    service.ports.flatMap (bindingHits service tables)

end ComposeLint.Rule
