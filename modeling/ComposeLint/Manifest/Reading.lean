import ComposeLint.Manifest.Shape
import ComposeLint.Cause
import ComposeLint.Tree.Circle

/-!
# From a tree to a document

`Document.ofTree` reduces a manifest to a document, or says why it is none. A manifest whose
shape is wrong is refused before any field is looked at. Otherwise the services are reduced
in reading order, and in each of them the restart policy, the volumes and the ports in this
order; the first field that makes no sense refuses the whole manifest.
-/

namespace ComposeLint

/-- Why a tree is no manifest. -/
inductive ManifestFault where
  | notAMapping
  | wrongShape (issues : List Issue)
  | invalidVolume (service written : String)
  | invalidPort (service written : String)
  | unknownRestartPolicy (service written : String)
  /-- A port that stands inside itself and so cannot be shown. -/
  | circularPort (circle : Circle)
  deriving Repr

namespace ManifestFault

/-- The wording of a fault. -/
def message : ManifestFault → String
  | notAMapping => "Manifest root must be a mapping"
  | wrongShape issues => "Invalid manifest structure: " ++ Issue.listText issues
  | invalidVolume service written =>
    "Service '" ++ service ++ "' has an invalid volume: " ++ written
  | invalidPort service written => "Service '" ++ service ++ "' has an invalid port: " ++ written
  | unknownRestartPolicy service written =>
    "Service '" ++ service ++ "' has an unknown restart policy: " ++ written
  | circularPort circle => circle.message

/-- The fault as a cause of failure. Only faults of the whole tree name the file. -/
def cause (fault : ManifestFault) (path : String) : Cause :=
  match fault with
  | circularPort circle => .error circle.message
  | notAMapping | wrongShape _ => .parse fault.message (some path) none
  | _ => .parse fault.message none none

end ManifestFault

namespace Manifest

/-- The result of reading, or the fault that stands against it. -/
def orFault {α : Type} (fault : ManifestFault) : Option α → Except ManifestFault α
  | some value => .ok value
  | none => .error fault

/-- The restart setting of a service. -/
def restart (service : String) : Option Scalar → Except ManifestFault (Option RestartSetting)
  | none => .ok none
  | some (.flag false) => .ok (some (.policy .never))
  | some written =>
    (orFault (.unknownRestartPolicy service written.toText)
      (RestartSetting.parse? written.toText)).map some

/-- A volume of a service. -/
def mount (service : String) : VolumeShape → Except ManifestFault Mount
  | .short written => orFault (.invalidVolume service written) (Mount.parse? written)
  | .long source target readOnly => .ok (Mount.ofLong source target readOnly)

/-- A port of a service. -/
def binding (service : String) : PortShape → Except ManifestFault PortBinding
  | .short written => orFault (.invalidPort service written) (PortBinding.parse? written)
  | .long port =>
    let shown := Tree.mapping port.entries
    match shown.circle? with
    | some circle => .error (.circularPort circle)
    | none => orFault (.invalidPort service shown.json) (PortBinding.ofLong? port)

/-- The command of a service as one line. -/
def commandLine : CommandShape → String
  | .line written => written
  | .words items => Text.joined " " (items.map Scalar.toText)

/-- Whether a service is declared as privileged: only by `true`, or by the text `true`. -/
def grantsPrivilege : Option Scalar → Bool
  | some (.flag b) => b
  | some (.text s) => s == "true"
  | _ => false

/-- Whether a health check is declared and not switched off. -/
def isActive : Option HealthcheckShape → Bool
  | none => false
  | some check => !check.isDisabled && check.test != some "NONE"

/-- A text without the blanks around it. -/
def trimmed (s : String) : String := String.ofList (Text.trim s.toList)

/-- Reduces a service. -/
def reduceService (name : String) (shape : ServiceShape) : Except ManifestFault Service := do
  let restartPolicy ← restart name shape.restart
  let volumeMounts ← shape.volumes.mapM (mount name)
  let ports ← shape.ports.mapM (binding name)
  return {
    name
    image := shape.image.map Image.parse
    privileged := grantsPrivilege shape.privileged
    capabilitiesAdded := (shape.capabilities.map capabilityName).eraseDups
    command := shape.command.map commandLine
    networkMode := shape.networkMode
    volumeMounts
    environment := (shape.environment.map Environment.ofShape).getD .empty
    user := shape.user.map Scalar.toText
    securityOptions := (shape.securityOptions.map trimmed).eraseDups
    ports
    restartPolicy
    explicitNetworks := shape.networks.eraseDups
    dependsOn := shape.dependsOn.eraseDups
    hasHealthcheck := isActive shape.healthcheck }

/-- Reduces a service that may be declared without fields. -/
def reduceEntry (entry : String × Option ServiceShape) :
    Except ManifestFault (String × Service) :=
  (reduceService entry.1 (entry.2.getD {})).map fun service => (entry.1, service)

/-- Reduces a declared network. -/
def reduceNetwork (entry : String × Option NetworkShape) : String × Network :=
  let shape := entry.2.getD {}
  (entry.1, { name := entry.1, isExternal := shape.isExternal, driver := shape.driver })

/-- Whether a tree can be read as a mapping at all. Dates and byte strings are left to the shape
to refuse or to accept. -/
def isMapping : Tree → Bool
  | .mapping _ | .date _ | .bytes _ => true
  | .ring _ content => isMapping content
  | _ => false

/-- Reduces a manifest of the right shape. Without services there is nothing to audit. -/
def reduce (path : String) (shape : ManifestShape) : Except ManifestFault Document :=
  match shape.services with
  | none => .ok (.empty path)
  | some services =>
    (services.mapM reduceEntry).map fun services =>
      { path
        services := .ofList services
        networks := .ofList (shape.networks.map reduceNetwork)
        volumes := shape.volumes.eraseDups }

end Manifest

/-- **Reads a tree as a manifest.** An empty tree is a document without anything to audit. -/
def Document.ofTree (path : String) (tree : Option Tree) : Except ManifestFault Document :=
  match tree with
  | none | some .null => .ok (.empty path)
  | some tree =>
    if Manifest.isMapping tree then
      match Manifest.manifest (some tree) with
      | .valid shape => Manifest.reduce path shape
      | .flawed issues => .error (.wrongShape issues)
      | .mismatched issues => .error (.wrongShape issues)
    else .error .notAMapping

end ComposeLint
