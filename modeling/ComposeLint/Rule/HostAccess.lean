import ComposeLint.Rule.Basic

/-!
# Rules on host paths

Mounts of sensitive paths of the host, and mounts that open up far more than a service needs.
Only bind mounts are judged, and trailing slashes never matter.
-/

namespace ComposeLint.Rule

/-- A path without the slashes at its end; a path of slashes alone is `/`. -/
def withoutTrailingSlashes (path : String) : String :=
  let cs := path.toList
  let trimmed := (cs.reverse.dropWhile (· == '/')).reverse
  if trimmed.isEmpty && cs.head? == some '/' then "/" else String.ofList trimmed

/-- The hits of a check on the bind mounts of a service; the check is given the trimmed source. -/
def bindMountHits (service : Service) (check : Mount → String → List Hit) : List Hit :=
  service.volumeMounts.flatMap fun mount =>
    if mount.kind = .bindMount then check mount (withoutTrailingSlashes mount.source) else []

/-- The service mounts a path of the table. -/
def dangerousMounts : Rule where
  id := "dangerous-mounts"
  name := "Dangerous bind mounts"
  category := volumeSecurity
  description :=
    "The Docker socket and kernel or credential paths give containers control over the host"
  remediation :=
    "Remove the mount, or use a socket proxy with a restricted API for the Docker socket"
  inspection := perService fun service tables =>
    bindMountHits service fun _ source =>
      match tables.sensitiveMounts.find? (·.path == source) with
      | some entry =>
        [⟨entry.severity, about service ("mounts dangerous path: " ++ entry.path)⟩]
      | none => []

/-- Whether a trimmed source opens up the root or anything whose text begins as a broad path. -/
def isBroad (tables : RuleTables) (source : String) : Bool :=
  source == tables.broadMountRoot ||
    tables.broadMountPrefixes.any fun start => start.toList.isPrefixOf source.toList

/-- The service mounts the root of the host or a broad part of it. -/
def broadFilesystemMounts : Rule where
  id := "broad-filesystem-mounts"
  name := "Broad filesystem mounts"
  category := volumeSecurity
  description :=
    "Mounting the root filesystem or home directories exposes far more than a service needs"
  remediation :=
    "Mount only the specific directory the service needs, read-only where possible"
  inspection := perService fun service tables =>
    bindMountHits service fun mount source =>
      hitIf (isBroad tables source) .high
        (about service ("has broad filesystem access: " ++ mount.source))

end ComposeLint.Rule
