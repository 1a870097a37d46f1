import ComposeLint.Shape.Check
import ComposeLint.Service

/-!
# The shape of a manifest

What a manifest may look like before it is reduced to a document: which fields are read, and
which kinds of values each of them takes. Every optional field may also be null, as an empty
key is. Keys that are not named here may hold anything.
-/

namespace ComposeLint

open Check

/-- A volume of a service, as it is written. -/
inductive VolumeShape where
  | short (written : String)
  | long (source : Option String) (target : String) (readOnly : Bool)
  deriving Repr

/-- A port of a service, as it is written. A number is written in the short form. -/
inductive PortShape where
  | short (written : String)
  | long (port : LongPort)
  deriving Repr

/-- A command: one line, or words. -/
inductive CommandShape where
  | line (written : String)
  | words (items : List Scalar)
  deriving Repr

/-- A health check of a service. -/
structure HealthcheckShape where
  /-- The test line, or the first of its words. -/
  test : Option String
  isDisabled : Bool
  deriving Repr

/-- A service, as it is written. -/
structure ServiceShape where
  image : Option String := none
  privileged : Option Scalar := none
  capabilities : List String := []
  command : Option CommandShape := none
  networkMode : Option String := none
  volumes : List VolumeShape := []
  environment : Option EnvironmentShape := none
  user : Option Scalar := none
  securityOptions : List String := []
  ports : List PortShape := []
  restart : Option Scalar := none
  networks : List String := []
  dependsOn : List String := []
  healthcheck : Option HealthcheckShape := none
  deriving Repr

/-- A declared network, as it is written. -/
structure NetworkShape where
  isExternal : Bool := false
  driver : Option String := none
  deriving Repr

/-- A manifest, as it is written. A service or a network without fields may be null. -/
structure ManifestShape where
  services : Option (List (String × Option ServiceShape))
  networks : List (String × Option NetworkShape)
  volumes : List String
  deriving Repr

namespace Manifest

/-- A text as a scalar. -/
def textScalar : Check Scalar := mapped .text text

/-- A number as a scalar. -/
def numberScalar : Check Scalar := mapped .number number

/-- A truth value as a scalar. -/
def flagScalar : Check Scalar := mapped .flag flag

/-- A text, a number or a truth value. -/
def scalar : Check Scalar := either [textScalar, numberScalar, flagScalar]

/-- A list whose absence is the empty list. -/
def listOrNothing {α : Type} (check : Check α) : Check (List α) :=
  mapped (·.getD []) (nullish (list check))

/-- A list of names, or a mapping whose keys are the names. -/
def names : Check (List String) :=
  either [list text, mapped (·.map Prod.fst) anyRecord]

/-- Names whose absence is no names. -/
def namesOrNothing : Check (List String) := mapped (·.getD []) (nullish names)

/-- An environment in either way of writing. -/
def environment : Check EnvironmentShape :=
  either
    [mapped .list (list scalar),
      mapped .mapping (record (either [mapped some scalar, mapped (fun _ => none) nothing]))]

/-- A volume in either way of writing. -/
def volume : Check VolumeShape :=
  either
    [mapped .short text,
      object fun entries =>
        (fun _ source target readOnly => .long source target (readOnly.getD false)) <$>
          field entries "type" (optional text) <*>
          field entries "source" (nullish text) <*>
          field entries "target" text <*>
          field entries "read_only" (nullish flag)]

/-- One side of a long port: a whole number or a text. -/
def portSide : Check String := either [mapped Number.text whole, text]

/-- The keys of a long port that are read, in the order in which they are shown. -/
def portKeys : List String := ["target", "published", "host_ip", "protocol", "mode"]

/-- The entries of a long port as they are shown: the keys that are read, then the others. -/
def shownEntries (entries : List (String × Tree)) : List (String × Tree) :=
  (portKeys.filterMap fun key => (entries.lookup key).map fun value => (key, value)) ++
    entries.filter fun entry => !portKeys.contains entry.1 && entry.1 != reservedKey

/-- A port in either way of writing. -/
def port : Check PortShape :=
  either
    [mapped (fun n => .short n.text) whole,
      mapped .short text,
      object fun entries =>
        (fun target published hostInterface protocol _ =>
            .long
              { target, published, hostInterface, protocol, entries := shownEntries entries }) <$>
          field entries "target" portSide <*>
          field entries "published" (nullish portSide) <*>
          field entries "host_ip" (nullish text) <*>
          field entries "protocol" (nullish text) <*>
          field entries "mode" (nullish text)]

/-- A command in either way of writing. -/
def command : Check CommandShape :=
  either [mapped .line text, mapped .words (list scalar)]

/-- A health check. -/
def healthcheck : Check HealthcheckShape :=
  object fun entries =>
    (fun test isDisabled => { test := test.join, isDisabled := isDisabled.getD false }) <$>
      field entries "test"
        (nullish (either [mapped some text, mapped List.head? (list text)])) <*>
      field entries "disable" (nullish flag)

/-- A service. -/
def service : Check ServiceShape :=
  object fun entries =>
    ServiceShape.mk <$>
      field entries "image" (nullish text) <*>
      field entries "privileged" (nullish (either [flagScalar, textScalar])) <*>
      field entries "cap_add" (listOrNothing text) <*>
      field entries "command" (nullish command) <*>
      field entries "network_mode" (nullish text) <*>
      field entries "volumes" (listOrNothing volume) <*>
      field entries "environment" (nullish environment) <*>
      field entries "user" (nullish (either [textScalar, numberScalar])) <*>
      field entries "security_opt" (listOrNothing text) <*>
      field entries "ports" (listOrNothing port) <*>
      field entries "restart" (nullish (either [textScalar, flagScalar])) <*>
      field entries "networks" namesOrNothing <*>
      field entries "depends_on" namesOrNothing <*>
      field entries "healthcheck" (nullish healthcheck)

/-- A declared network. Naming the outside network in a mapping also makes it external. -/
def network : Check NetworkShape :=
  object fun entries =>
    (fun isExternal driver => { isExternal := isExternal.getD false, driver }) <$>
      field entries "external" (nullish (either [flag, mapped (fun _ => true) anyRecord])) <*>
      field entries "driver" (nullish text)

/-- A value of some shape, or null. -/
def orNull {α : Type} (check : Check α) : Check (Option α) :=
  either [mapped some check, mapped (fun _ => none) nothing]

/-- A whole manifest. -/
def manifest : Check ManifestShape :=
  object fun entries =>
    (fun services networks volumes =>
        { services
          networks := networks.getD []
          volumes := (volumes.getD []).map Prod.fst }) <$>
      field entries "services" (nullish (record (orNull service))) <*>
      field entries "networks" (nullish (record (orNull network))) <*>
      field entries "volumes" (nullish anyRecord)

end Manifest
end ComposeLint
