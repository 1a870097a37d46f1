import ComposeLint.Rule.Basic

/-!
# Rules on what a container may do

Privileged mode, capabilities, the user of the container and the options that harden it.
-/

namespace ComposeLint.Rule

/-- The service runs in privileged mode. -/
def privilegedMode : Rule where
  id := "privileged-mode"
  name := "Privileged containers"
  category := containerSecurity
  description := "Privileged containers have full access to host devices and kernel features"
  remediation := "Remove `privileged: true` and grant only the capabilities the service needs"
  inspection := perService fun service _ =>
    hitIf service.privileged .high (about service "runs in privileged mode")

/-- The service adds a capability of the table. -/
def dangerousCapabilities : Rule where
  id := "dangerous-capabilities"
  name := "Dangerous capabilities"
  category := containerSecurity
  description := "Some Linux capabilities are close to full root on the host"
  remediation := "Drop SYS_ADMIN, NET_ADMIN, SYS_PTRACE and SYS_MODULE from cap_add"
  inspection := perService fun service tables =>
    (service.capabilitiesAdded.filter tables.dangerousCapabilities.contains).map fun capability =>
      ⟨.medium, about service ("has dangerous capability: " ++ capability)⟩

/-- The command of the service contains the flag of the table. -/
def privilegedCommand : Rule where
  id := "privileged-command"
  name := "Privileged via command"
  category := containerSecurity
  description := "Commands that pass --privileged start privileged nested containers"
  remediation := "Remove --privileged from the service command"
  inspection := perService fun service tables =>
    hitIf (service.command.any (Text.contains · tables.privilegedFlag)) .high
      (about service ("uses " ++ tables.privilegedFlag ++ " in command"))

/-- The names and numbers of the root user. -/
def rootUsers : List String := ["root", "0"]

/-- The user without the group that may follow a colon. -/
def userPart (user : String) : String :=
  String.ofList (Text.trim (user.toList.takeWhile (· != ':')))

/-- The service names no user, or names root. -/
def rootUser : Rule where
  id := "root-user"
  name := "Root user"
  category := containerSecurity
  description := "Containers running as root turn a container escape into host root"
  remediation := "Set `user:` to an unprivileged UID:GID"
  inspection := perService fun service _ =>
    match service.user with
    | none => [⟨.low, about service "does not specify a user (may run as root)"⟩]
    | some user =>
      hitIf (rootUsers.contains (userPart user)) .medium (about service "explicitly runs as root")

/-- A security option in small letters and without blanks. -/
def plainOption (written : String) : List Char :=
  Text.withoutBlanks (Text.lower written.toList)

/-- Whether an option forbids new privileges. -/
def forbidsNewPrivileges (plain : List Char) : Bool :=
  ["no-new-privileges".toList, "no-new-privileges:true".toList,
    "no-new-privileges=true".toList].contains plain

/-- Whether an option confines the process by a profile and does not switch the profile off. -/
def confines (plain : List Char) : Bool :=
  (Text.occursIn "apparmor".toList plain || Text.occursIn "selinux".toList plain ||
      "label:".toList.isPrefixOf plain || "label=".toList.isPrefixOf plain) &&
    !(Text.occursIn "unconfined".toList plain || Text.occursIn "disable".toList plain)

/-- The service lacks an option that forbids new privileges, or one that confines it. -/
def missingHardening : Rule where
  id := "missing-hardening"
  name := "Missing hardening options"
  category := containerSecurity
  description := "security_opt should block privilege escalation and confine the process"
  remediation :=
    "Add 'no-new-privileges:true' and an AppArmor or SELinux profile to security_opt"
  inspection := perService fun service _ =>
    let options := service.securityOptions.map plainOption
    hitIf (!options.any forbidsNewPrivileges) .low
        (about service "is missing the 'no-new-privileges:true' security option") ++
      hitIf (!options.any confines) .info
        (about service "could benefit from an AppArmor or SELinux profile")

end ComposeLint.Rule
