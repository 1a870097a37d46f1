import ComposeLint.Finding
import ComposeLint.Text.Blank
import ComposeLint.Text.Case
import ComposeLint.Port

/-!
# Tables that the rules consult

The data behind the rules: which capabilities, paths, ports, names and registries matter. The
logic of a rule never names an entry of a table, so a run may bring tables of its own.
-/

namespace ComposeLint

/-- A host path that must not be mounted. -/
structure SensitiveMount where
  path : String
  severity : Severity
  deriving DecidableEq, Repr

/-- The data that the rules consult. -/
structure RuleTables where
  dangerousCapabilities : List String
  sensitiveMounts : List SensitiveMount
  broadMountRoot : String
  broadMountPrefixes : List String
  /-- Texts that, inside the name of a variable, betray a secret. -/
  secretKeyPatterns : List String
  /-- Values that are no secrets but stand in for one. -/
  secretPlaceholders : List String
  sensitivePorts : List Nat
  /-- Interface addresses that mean every interface. -/
  allInterfaceAddresses : List String
  trustedRegistries : List String
  privilegedFlag : String
  deriving DecidableEq, Repr

namespace RuleTables

/-- The tables of a run that brings none. -/
def standard : RuleTables where
  dangerousCapabilities := ["SYS_ADMIN", "NET_ADMIN", "SYS_PTRACE", "SYS_MODULE"]
  sensitiveMounts :=
    [⟨"/var/run/docker.sock", .high⟩, ⟨"/proc", .medium⟩, ⟨"/sys", .medium⟩,
      ⟨"/etc/passwd", .medium⟩, ⟨"/etc/shadow", .medium⟩, ⟨"/etc/sudoers", .medium⟩,
      ⟨"/root/.ssh", .medium⟩]
  broadMountRoot := "/"
  broadMountPrefixes := ["/home"]
  secretKeyPatterns :=
    ["password", "passwd", "secret", "key", "token", "credential", "auth", "private"]
  secretPlaceholders := ["changeme", "your-password", "example"]
  sensitivePorts := [22, 23, 80, 443, 3389, 5432, 3306]
  allInterfaceAddresses := [allInterfaces, "::"]
  trustedRegistries :=
    ["docker.io", "ghcr.io", "quay.io", "registry.redhat.io", "mcr.microsoft.com", "gcr.io"]
  privilegedFlag := "--privileged"

/-- Registries as the tables hold them: in small letters, without blanks around them, and without
empty entries. -/
def registryNames (registries : List String) : List String :=
  (registries.map fun r => String.ofList (Text.lower (Text.trim r.toList))).filter (· != "")

/-- The tables with further trusted registries. Without a further name they stay as they are. -/
def trusting (tables : RuleTables) (registries : List String) : RuleTables :=
  match registryNames registries with
  | [] => tables
  | names => { tables with trustedRegistries := (tables.trustedRegistries ++ names).eraseDups }

end RuleTables
end ComposeLint
