import ComposeLint.Log
import ComposeLint.Text.Search

/-!
# Failures in a log

A field of a record may describe a failure: data with a text under `message`, and maybe with the
failure that caused it under `cause`. A log shows it with its type, with the messages of all causes
in one text, and with their stacks one below the other.
-/

namespace ComposeLint

/-- A failure as a log shows it. -/
structure ShownFailure where
  /-- The message, with those of the causes. -/
  message : String
  /-- The stack, with those of the causes. -/
  stack : Tree
  fields : List (String × Tree)

/-- A part of data that may be a failure, with what the log shows of it. -/
structure ShownPart where
  value : Tree
  failure : Option ShownFailure := none
  /-- The items of a list, shown one by one. -/
  items : List Tree := []

namespace ShownPart

/-- What is shown of a part: the failure, or else the data as it is. -/
def tree (part : ShownPart) : Tree :=
  match part.failure with
  | some failure => .mapping failure.fields
  | none => part.value

end ShownPart

namespace ShownFailure

/-- Whether data says nothing. -/
def isVoid : Tree → Bool
  | .null | .bool false | .number .notANumber => true
  | .number n => n.text == "0"
  | .text s => s.isEmpty
  | _ => false

mutual
/-- Data as a part of a text. -/
def wording : Tree → String
  | .null => ""
  | .bool b => toString b
  | .number n => n.text
  | .text s => s
  | .list items => Text.joined "," (wordings items)
  | _ => "[object Object]"

/-- Each item of a list as a part of a text. -/
def wordings : List Tree → List String
  | [] => []
  | item :: rest => wording item :: wordings rest
end

/-- The fields that a failure is always shown with. A failure that says itself what makes it is of
the type that its `name` gives. -/
def ownFields (parts : List (String × ShownPart)) (message : String) (stack : Tree) :
    List (String × Tree) :=
  let type :=
    if (parts.lookup "constructor").isSome then (parts.lookup "name").map (·.value)
    else some (.text "Object")
  let errors :=
    match parts.lookup "errors" with
    | some { value := .list _, items, .. } => [("aggregateErrors", Tree.list items)]
    | _ => []
  type.toList.map (("type", ·)) ++ [("message", .text message), ("stack", stack)] ++ errors

/-- The fields that a failure is shown with besides: all others but its cause. -/
def otherFields (shown : List (String × Tree)) (parts : List (String × ShownPart)) :
    List (String × Tree) :=
  let others :=
    parts.filter fun part =>
      (shown.lookup part.1).isNone && part.1 != "raw" && !inheritedNames.contains part.1 &&
        !(part.1 == "cause" && part.2.failure.isSome)
  others.map fun part => (part.1, part.2.tree)

/-- The failure that data with the given parts describes, if it describes one. -/
def ofParts? (parts : List (String × ShownPart)) : Option ShownFailure :=
  match parts.lookup "message" with
  | some { value := .text own, .. } =>
    let stack := (((parts.lookup "stack").map (·.value)).filter (!isVoid ·)).getD (.text "")
    let (message, stack) :=
      match (parts.lookup "cause").bind (·.failure) with
      | some cause =>
        (own ++ ": " ++ cause.message,
          .text (wording stack ++ "\ncaused by: " ++ wording cause.stack))
      | none => (own, stack)
    let shown := ownFields parts message stack
    some { message, stack, fields := shown ++ otherFields shown parts }
  | _ => none

mutual
/-- Data as a part that may be a failure. -/
def part : Tree → ShownPart
  | .list items => { value := .list items, items := shownItems items }
  | .mapping entries =>
    { value := .mapping entries, failure := ofParts? (readingOrder (parts entries)) }
  | other => { value := other }

/-- The items of a list as a log shows them. -/
def shownItems : List Tree → List Tree
  | [] => []
  | item :: rest => (part item).tree :: shownItems rest

/-- The values of a mapping as parts. -/
def parts : List (String × Tree) → List (String × ShownPart)
  | [] => []
  | (key, value) :: rest => (key, part value) :: parts rest
end

end ShownFailure

/-- The fields of a record as a log shows them: a failure is looked for under `err`. -/
def LogRecord.shownFields (record : LogRecord) : List (String × Tree) :=
  record.fields.map fun field =>
    if field.1 == "err" then (field.1, (ShownFailure.part field.2).tree) else field

end ComposeLint
