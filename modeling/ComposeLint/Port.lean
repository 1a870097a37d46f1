import ComposeLint.Substitution
import ComposeLint.Text.Blank
import ComposeLint.Text.Case
import ComposeLint.Tree.Json

/-!
# Published ports

A port is published in a short form, `[interface:][host:]container[/protocol]`, or in a long
form with one field for each part. Both are read to a `PortBinding`; a part that refers to a
variable is kept as it was written. `PortBinding.text` renders a binding in the short form,
without its interface.
-/

namespace ComposeLint

/-- The largest port. -/
def maxPort : Nat := 65535

/-- The interface that stands for every interface of the host. -/
def allInterfaces : String := "0.0.0.0"

/-- The ports from `first` to `last`. -/
structure PortRange where
  first : Nat
  last : Nat
  deriving DecidableEq, Repr

namespace PortRange

/-- A port or a range of ports: digits, or digits, a hyphen and digits. -/
def parse? (text : List Char) : Option PortRange :=
  let (start, rest) := Number.spanDigits text
  if start.isEmpty then none
  else
    let first := Number.digitsValue start
    let last? :=
      match rest with
      | [] => some first
      | '-' :: stop =>
        if stop.isEmpty || !stop.all Char.isDigit then none else some (Number.digitsValue stop)
      | _ => none
    match last? with
    | some last => if last < first || maxPort < last then none else some ⟨first, last⟩
    | none => none

/-- A single port is written as one number. -/
def text (range : PortRange) : String :=
  if range.first = range.last then toString range.first
  else toString range.first ++ "-" ++ toString range.last

end PortRange

/-- One side of a binding: known ports, or a text that refers to a variable. -/
inductive PortSide where
  | literal (range : PortRange)
  | unresolved (expression : String)
  deriving DecidableEq, Repr

namespace PortSide

/-- The ports of one side, with the blanks around it removed. -/
def parse? (text : List Char) : Option PortSide :=
  let trimmed := Text.trim text
  if Substitution.occursIn text then some (.unresolved (String.ofList trimmed))
  else (PortRange.parse? trimmed).map .literal

/-- The text of one side. -/
def text : PortSide → String
  | literal range => range.text
  | unresolved expression => expression

end PortSide

/-- Ports of a container made reachable at ports of an interface of the host. -/
structure PortBinding where
  hostInterface : String
  /-- Absent when the host chooses a free port. -/
  hostPort : Option PortSide
  containerPort : PortSide
  protocol : String
  deriving DecidableEq, Repr

/-- The fields of the long form, with its entries as they were written. -/
structure LongPort where
  target : String
  published : Option String
  hostInterface : Option String
  protocol : Option String
  entries : List (String × Tree)
  deriving Repr

namespace PortBinding

/-- The protocol of a port that names none. -/
def defaultProtocol : String := "tcp"

/-- The binding of an interface, two sides and a protocol as texts. An empty interface is every
interface, an empty host side is none, and an empty container side is refused by its reading. -/
def ofParts? (hostInterface host container protocol : List Char) : Option PortBinding := do
  let hostPort ← if host.isEmpty then some none else (PortSide.parse? host).map some
  let containerPort ← PortSide.parse? container
  some
    { hostInterface := if hostInterface.isEmpty then allInterfaces else String.ofList hostInterface
      hostPort, containerPort, protocol := String.ofList protocol }

/-- The text before the protocol, and the protocol. -/
def splitProtocol (spec : List Char) : List Char × List Char :=
  match Substitution.cutLast? '/' spec with
  | some (rest, protocol) => (rest, Text.lower protocol)
  | none => (spec, defaultProtocol.toList)

/-- An interface in square brackets, and the text after the colon that must follow it. -/
def splitBracketed? (rest : List Char) : Option (Option (List Char) × List Char) :=
  match rest with
  | '[' :: inside =>
    match Text.cutFirst? (· == ']') inside with
    | some (address, ':' :: after) => some (some address, after)
    | _ => none
  | _ => some (none, rest)

/-- The sides of a binding from the parts between colons. Without brackets all parts before the
last two are the interface, which may itself hold colons. -/
def ofSegments? (bracketed : Option (List Char)) (segments : List (List Char))
    (protocol : List Char) : Option PortBinding :=
  match segments.reverse with
  | [container] => ofParts? (bracketed.getD []) [] container protocol
  | [container, host] => ofParts? (bracketed.getD []) host container protocol
  | container :: host :: address =>
    match bracketed with
    | none => ofParts? ([':'].intercalate address.reverse) host container protocol
    | some _ => none
  | [] => none

/-- Reads the short form. -/
def parse? (spec : String) : Option PortBinding := do
  let (rest, protocol) := splitProtocol (Text.trim spec.toList)
  let (bracketed, rest) ← splitBracketed? rest
  ofSegments? bracketed (Substitution.split ':' rest) protocol

/-- Reads the long form. -/
def ofLong? (long : LongPort) : Option PortBinding :=
  ofParts? (long.hostInterface.getD "").toList (long.published.getD "").toList
    long.target.toList (Text.lower (long.protocol.getD defaultProtocol).toList)

/-- The short form without the interface, such as `8080:80` or `53:53/udp`. -/
def text (binding : PortBinding) : String :=
  let ports :=
    match binding.hostPort with
    | some host => host.text ++ ":" ++ binding.containerPort.text
    | none => binding.containerPort.text
  if binding.protocol = defaultProtocol then ports else ports ++ "/" ++ binding.protocol

end PortBinding
end ComposeLint
