import ComposeLint.Rule.Privilege
import ComposeLint.Rule.Exposure
import ComposeLint.Rule.HostAccess
import ComposeLint.Rule.Secrets
import ComposeLint.Rule.Provenance
import ComposeLint.Rule.Lifecycle

/-!
# The catalog of rules

The security rules run on every audit; the best practices follow them when they are asked for.
-/

namespace ComposeLint.Rule

/-- The rules of every audit. -/
def securityRules : List Rule :=
  [privilegedMode, dangerousCapabilities, privilegedCommand, hostNetwork, dangerousMounts,
    broadFilesystemMounts, hardcodedSecrets, rootUser, missingHardening, implicitDefaultNetwork,
    externalNetworks, exposedPorts, alwaysRestart, unpinnedImageTag, untrustedRegistry]

/-- The rules that run on request. -/
def bestPracticeRules : List Rule := [missingHealthcheck, missingRestartPolicy]

/-- Every rule. -/
def allRules : List Rule := securityRules ++ bestPracticeRules

/-- The rules of a run. -/
def selected (bestPractices : Bool) : List Rule := if bestPractices then allRules else securityRules

/-- The rule of an id. -/
def find? (id : String) : Option Rule := allRules.find? (·.id == id)

/-- The ids of rules. -/
def ids (rules : List Rule) : List String := rules.map (·.id)

end ComposeLint.Rule
