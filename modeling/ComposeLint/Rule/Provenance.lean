import ComposeLint.Rule.Basic

/-!
# Rules on images

Where an image comes from and whether it can change underneath a deployment.
-/

namespace ComposeLint.Rule

/-- Whether nothing pins the version of an image. A repository that refers to a variable may
carry a tag of its own and is not judged. -/
def isUnpinned (image : Image) : Bool :=
  image.tag == Image.defaultTag && image.digest.isNone &&
    !Substitution.occursIn image.repository.toList

/-- The image of the service has no version. -/
def unpinnedImageTag : Rule where
  id := "unpinned-image-tag"
  name := "Unpinned image tag"
  category := imageSecurity
  description := "Images without a tag resolve to 'latest' and change underneath the deployment"
  remediation := "Pin a specific version tag or digest"
  inspection := perService fun service _ =>
    hitIf (service.image.any isUnpinned) .low
      (about service "uses 'latest' tag or no tag specified")

/-- Whether a registry, in small letters, is a trusted host or one of its subdomains. -/
def isTrusted (tables : RuleTables) (registry : String) : Bool :=
  let host := Text.lower registry.toList
  tables.trustedRegistries.any fun trusted =>
    host == trusted.toList || ('.' :: trusted.toList).isSuffixOf host

/-- The image of the service comes from a registry that is not trusted. A registry that holds a
dollar is not judged. -/
def untrustedRegistry : Rule where
  id := "untrusted-registry"
  name := "Untrusted registry"
  category := imageSecurity
  description := "Images pulled from registries outside the allowlist have unknown provenance"
  remediation :=
    "Pull from a trusted registry or add your own registry with --trusted-registry"
  inspection := perService fun service tables =>
    match service.image.bind (·.registry) with
    | none => []
    | some registry =>
      hitIf (!registry.toList.contains '$' && !isTrusted tables registry) .medium
        (about service ("uses image from potentially untrusted registry: " ++ registry))

end ComposeLint.Rule
