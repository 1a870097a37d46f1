import ComposeLint.Substitution
import ComposeLint.Text.Blank

/-!
# Volume mounts

A mount puts a host path or a named volume at a path of the container. It is written in a
short form, `[source:]target[:flags]`, or in a long form with one field for each part. What a
source is follows from its text alone (`MountKind.of`).
-/

namespace ComposeLint

/-- Whether the container may write to a mount. -/
inductive MountMode where
  | readWrite | readOnly
  deriving DecidableEq, Repr

/-- What the source of a mount is. -/
inductive MountKind where
  /-- A volume by name, or an anonymous one. -/
  | namedVolume
  /-- A path of the host: absolute, or relative and beginning with `./`. -/
  | bindMount
  /-- A text that begins with a variable, which may turn out as either. -/
  | substitution
  deriving DecidableEq, Repr

/-- The kind of a source. -/
def MountKind.of (source : String) : MountKind :=
  let cs := source.toList
  if cs.head? == some '$' && Substitution.occursIn cs then .substitution
  else if "/".toList.isPrefixOf cs || "./".toList.isPrefixOf cs then .bindMount
  else .namedVolume

/-- A mount of a service. -/
structure Mount where
  /-- The host path or volume name; empty for an anonymous volume. -/
  source : String
  target : String
  mode : MountMode
  kind : MountKind
  deriving DecidableEq, Repr

namespace Mount

/-- A mount whose kind follows from its source. -/
def ofParts (source target : String) (mode : MountMode) : Mount :=
  { source, target, mode, kind := .of source }

/-- The mode that the flags of a short form give: read-only when one of them is `ro`. -/
def modeOf (flags : List Char) : MountMode :=
  if (Text.pieces ',' flags).any fun flag => Text.trim flag == "ro".toList then .readOnly
  else .readWrite

/-- The mount of the parts of a short form. One part is the target of an anonymous volume; of two
or three parts the target must not be empty. -/
def ofParts? : List (List Char) → Option Mount
  | [target] => some (ofParts "" (String.ofList target) .readWrite)
  | [source, target] =>
    if target.isEmpty then none
    else some (ofParts (String.ofList source) (String.ofList target) .readWrite)
  | [source, target, flags] =>
    if target.isEmpty then none
    else some (ofParts (String.ofList source) (String.ofList target) (modeOf flags))
  | _ => none

/-- Reads the short form. -/
def parse? (spec : String) : Option Mount := ofParts? (Substitution.split ':' spec.toList)

/-- Reads the long form. A missing source is an anonymous volume. -/
def ofLong (source : Option String) (target : String) (readOnly : Bool) : Mount :=
  ofParts (source.getD "") target (if readOnly then .readOnly else .readWrite)

end Mount
end ComposeLint
