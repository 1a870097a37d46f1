import ComposeLint.Tree

/-!
# Guidance

Advice that goes with a failure: what went wrong, a likely cause, a next step, and details for
programs. Every part may be missing.
-/

namespace ComposeLint

/-- Advice that goes with a failure. -/
structure Guidance where
  message : Option String := none
  hint : Option String := none
  resolution : Option String := none
  details : Option Tree := none
  deriving Repr, Inhabited

namespace Guidance

/-- A part of an advice, unless it is empty. -/
def nonempty? (part : Option String) : Option String := part.filter (· != "")

/-- An advice with a message. A hint or a resolution without text is left out. -/
def of (message : String) (hint resolution : Option String) (details : Option Tree) : Guidance :=
  { message := some message, hint := nonempty? hint, resolution := nonempty? resolution, details }

/-- Guidance as data; missing parts are left out. -/
def tree (guidance : Guidance) : Tree :=
  let part (name : String) (value : Option Tree) : List (String × Tree) :=
    match value with
    | some value => [(name, value)]
    | none => []
  .mapping (part "message" (guidance.message.map .text) ++ part "hint" (guidance.hint.map .text) ++
    part "resolution" (guidance.resolution.map .text) ++ part "details" guidance.details)

end Guidance

/-- A failure that is told to the user: its text, and advice. -/
structure Failure where
  message : String
  guidance : Option Guidance
  deriving Repr

end ComposeLint
