import ComposeLint.Tree.Json

/-!
# Issues

An issue says where in a tree something is not as its shape asks, and what. Each kind of
complaint has one code and one wording; a value that is missing altogether is reported as
`Required`, whatever was wanted in its place.
-/

namespace ComposeLint

/-- The kinds of data that issues speak of. -/
inductive Kind where
  | string | number | nan | boolean | null | array | object | date | undefined
  deriving DecidableEq, Repr

namespace Kind

/-- The name of a kind in an issue. -/
def name : Kind → String
  | string => "string"
  | number => "number"
  | nan => "nan"
  | boolean => "boolean"
  | null => "null"
  | array => "array"
  | object => "object"
  | date => "date"
  | undefined => "undefined"

/-- The kind of a value that may be missing. -/
def of : Option Tree → Kind
  | none => undefined
  | some .null => null
  | some (.bool _) => boolean
  | some (.number .notANumber) => nan
  | some (.number _) => number
  | some (.text _) => string
  | some (.list _) => array
  | some (.mapping _) => object
  | some (.date _) => date
  | some (.bytes _) => object
  | some (.ring _ (.list _)) => array
  | some (.ring ..) => object
  | some (.again _) => object

end Kind

/-- One step of a path into a tree. -/
inductive Step where
  | key (name : String)
  | index (i : Nat)
  deriving DecidableEq, Repr

/-- The text of a step. -/
def Step.text : Step → String
  | .key name => name
  | .index i => toString i

/-- What was wanted where something of another kind was found. -/
inductive Wanted where
  | kind (kind : Kind)
  | oneOf (options : List String)
  deriving DecidableEq, Repr

/-- The options of an enumeration, quoted and separated by bars. -/
def optionsText (options : List String) : String :=
  Text.joined " | " (options.map fun o => "'" ++ o ++ "'")

/-- How a wanted value is named. -/
def Wanted.text : Wanted → String
  | .kind k => k.name
  | .oneOf options => optionsText options

/-- What is wrong at one place. -/
inductive Complaint where
  /-- Something of another kind, or nothing, was found. -/
  | mismatch (wanted : Wanted) (found : Kind)
  /-- A whole number was wanted and a number that is none was found. -/
  | fraction
  /-- A text that is none of the options. -/
  | unlisted (options : List String) (found : String)
  | emptyText
  | emptyList
  /-- Keys that a closed mapping does not have. -/
  | unknownKeys (names : List String)
  /-- None of several alternatives fits. -/
  | noAlternative
  deriving DecidableEq, Repr

namespace Complaint

/-- The code of a complaint. -/
def code : Complaint → String
  | mismatch .. | fraction => "invalid_type"
  | unlisted .. => "invalid_enum_value"
  | emptyText | emptyList => "too_small"
  | unknownKeys _ => "unrecognized_keys"
  | noAlternative => "invalid_union"

/-- The wording of a complaint. -/
def message : Complaint → String
  | mismatch _ .undefined => "Required"
  | mismatch wanted found => "Expected " ++ wanted.text ++ ", received " ++ found.name
  | fraction => "Expected integer, received float"
  | unlisted options found =>
    "Invalid enum value. Expected " ++ optionsText options ++ ", received '" ++ found ++ "'"
  | emptyText => "String must contain at least 1 character(s)"
  | emptyList => "Array must contain at least 1 element(s)"
  | unknownKeys names =>
    "Unrecognized key(s) in object: " ++
      Text.joined ", " (names.map fun n => "'" ++ n ++ "'")
  | noAlternative => "Invalid input"

end Complaint

/-- A complaint and the path of the place it is about. -/
structure Issue where
  path : List Step
  complaint : Complaint
  deriving DecidableEq, Repr

namespace Issue

/-- The path as text, with points between the steps. -/
def pathText (issue : Issue) : String := Text.joined "." (issue.path.map Step.text)

/-- One line about an issue. -/
def text (issue : Issue) : String :=
  (if issue.path.isEmpty then "(root)" else issue.pathText) ++ ": " ++ issue.complaint.message

/-- The line that lists several issues. -/
def listText (issues : List Issue) : String := Text.joined "; " (issues.map text)

/-- The data of a step. -/
def stepTree : Step → Tree
  | .key name => .text name
  | .index i => .nat i

/-- The data of a complaint about something that is empty; the wording is among them. -/
def emptyDetails (kind : Kind) : List (String × Tree) :=
  [("minimum", .nat 1), ("type", .text kind.name), ("inclusive", .bool true),
    ("exact", .bool false)]

/-- An issue as data. What is empty has its wording before its path, everything else after it. -/
def tree (issue : Issue) : Tree :=
  let complaint := issue.complaint
  let code : String × Tree := ("code", .text complaint.code)
  let path : String × Tree := ("path", .list (issue.path.map stepTree))
  let message : String × Tree := ("message", .text complaint.message)
  .mapping <|
    match complaint with
    | .mismatch (.kind k) found =>
      [code, ("expected", .text k.name), ("received", .text found.name), path, message]
    | .mismatch (.oneOf options) found =>
      [("expected", .text (optionsText options)), ("received", .text found.name), code, path,
        message]
    | .fraction =>
      [code, ("expected", .text "integer"), ("received", .text "float"), path, message]
    | .unlisted options found =>
      [("received", .text found), code, ("options", .texts options), path, message]
    | .emptyText => code :: emptyDetails .string ++ [message, path]
    | .emptyList => code :: emptyDetails .array ++ [message, path]
    | .unknownKeys names => [code, ("keys", .texts names), path, message]
    | .noAlternative => [code, path, message]

end Issue
end ComposeLint
