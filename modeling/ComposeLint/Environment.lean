import ComposeLint.Substitution
import ComposeLint.Table
import ComposeLint.Number

/-!
# The environment of a service

An environment is written as a list of `NAME=value` or `NAME`, or as a mapping from names to
values. Either way a name that is set twice keeps its first place and its last value.
-/

namespace ComposeLint

/-- A scalar of a manifest. -/
inductive Scalar where
  | text (s : String)
  | number (n : Number)
  | flag (b : Bool)
  deriving DecidableEq, Repr

/-- The text of a scalar. -/
def Scalar.toText : Scalar → String
  | text s => s
  | number n => n.text
  | flag true => "true"
  | flag false => "false"

/-- Where the value of a variable comes from. -/
inductive EnvValue where
  | literal (value : String)
  /-- A reference to a variable, kept as written. -/
  | substitution (expression : String)
  /-- No value is given; the one of the host's environment is used. -/
  | inherited
  deriving DecidableEq, Repr

/-- The value that a text gives: a substitution when it begins with a `${…}` group or is a single
`$NAME`, and a literal otherwise. -/
def EnvValue.ofText (value : String) : EnvValue :=
  let cs := value.toList
  if Substitution.beginsWithGroup cs || Substitution.isBareReference cs then .substitution value
  else .literal value

/-- The two ways in which an environment is written. -/
inductive EnvironmentShape where
  | list (items : List Scalar)
  | mapping (entries : List (String × Option Scalar))
  deriving Repr

namespace Environment

/-- The name and value of an item of a list: a text cut at its first equals sign. -/
def ofItem (item : Scalar) : String × EnvValue :=
  match Text.cutFirst? (· == '=') item.toText.toList with
  | some (name, value) => (String.ofList name, .ofText (String.ofList value))
  | none => (item.toText, .inherited)

/-- The name and value of an entry of a mapping. -/
def ofEntry (entry : String × Option Scalar) : String × EnvValue :=
  match entry.2 with
  | some value => (entry.1, .ofText value.toText)
  | none => (entry.1, .inherited)

/-- The environment that was written. -/
def ofShape : EnvironmentShape → Table EnvValue
  | .list items => .ofList (items.map ofItem)
  | .mapping entries => .ofList (entries.map ofEntry)

end Environment
end ComposeLint
