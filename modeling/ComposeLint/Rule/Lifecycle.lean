import ComposeLint.Rule.Basic

/-!
# Rules on restarting

How a service comes back after a crash, and whether anyone notices that it hangs. Only the
first of these rules belongs to the security rules; the other two are best practices.
-/

namespace ComposeLint.Rule

/-- The service is restarted even after it was stopped on purpose. -/
def alwaysRestart : Rule where
  id := "always-restart"
  name := "Always-restart policy"
  category := containerSecurity
  description := "'always' restarts a container even after it was stopped on purpose"
  remediation := "Use 'unless-stopped' instead of 'always'"
  inspection := perService fun service _ =>
    hitIf (service.restartPolicy == some (.policy .always)) .low
      (about service "uses 'always' restart policy (consider 'unless-stopped')")

/-- The service has no health check. -/
def missingHealthcheck : Rule where
  id := "missing-healthcheck"
  name := "Missing healthcheck"
  category := bestPractice
  description :=
    "Without a healthcheck the runtime cannot tell a hung service from a healthy one"
  remediation := "Add a healthcheck with a test command that exercises the service"
  inspection := perService fun service _ =>
    hitIf (!service.hasHealthcheck) .info (about service "does not define a healthcheck")

/-- The service has no restart policy. -/
def missingRestartPolicy : Rule where
  id := "missing-restart-policy"
  name := "Missing restart policy"
  category := bestPractice
  description :=
    "Services without a restart policy stay down after a crash or host reboot"
  remediation := "Set restart: unless-stopped"
  inspection := perService fun service _ =>
    hitIf service.restartPolicy.isNone .low (about service "has no restart policy")

end ComposeLint.Rule
