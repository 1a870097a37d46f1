import ComposeLint.Shape.Issue

/-!
# Results of checking a shape

`Checked α` is a value, or the issues that stand against it. There are two ways to fail: a
**flawed** value has the right kinds everywhere and breaks some further demand, and a
**mismatched** one has a wrong kind somewhere. Parts are checked side by side, so the issues
of all of them are kept, in order; one mismatched part makes the whole mismatched.
-/

namespace ComposeLint

/-- A value of the wanted shape, or the issues that stand against it. -/
inductive Checked (α : Type) where
  | valid (value : α)
  | flawed (issues : List Issue)
  | mismatched (issues : List Issue)
  deriving Repr

namespace Checked

variable {α β : Type}

/-- The issues of a result; none when it is valid. -/
def issues : Checked α → List Issue
  | valid _ => []
  | flawed issues => issues
  | mismatched issues => issues

/-- The value of a valid result. -/
def value? : Checked α → Option α
  | valid value => some value
  | _ => none

/-- The result with its value mapped. -/
def map (f : α → β) : Checked α → Checked β
  | valid value => valid (f value)
  | flawed issues => flawed issues
  | mismatched issues => mismatched issues

/-- Two results side by side: both values, or the issues of both. -/
def apply : Checked (α → β) → Checked α → Checked β
  | valid f, valid value => valid (f value)
  | valid _, flawed issues => flawed issues
  | valid _, mismatched issues => mismatched issues
  | flawed issues, valid _ => flawed issues
  | flawed issues, flawed others => flawed (issues ++ others)
  | flawed issues, mismatched others => mismatched (issues ++ others)
  | mismatched issues, other => mismatched (issues ++ other.issues)

instance : Functor Checked where
  map := map

instance : Seq Checked where
  seq f x := apply f (x ())

/-- The result with its issues placed below one step of a path. -/
def within (step : Step) : Checked α → Checked α
  | valid value => valid value
  | flawed issues => flawed (issues.map fun i => { i with path := step :: i.path })
  | mismatched issues => mismatched (issues.map fun i => { i with path := step :: i.path })

/-- Results side by side: all values, or the issues of all. -/
def all : List (Checked α) → Checked (List α)
  | [] => valid []
  | result :: rest => apply (map List.cons result) (all rest)

/-- The first of several alternatives that is valid; else the first that is only flawed, with its
issues; else a single issue that none fits. -/
def first (results : List (Checked α)) : Checked α :=
  match results.find? fun | valid _ => true | _ => false with
  | some result => result
  | none =>
    match results.find? fun | flawed _ => true | _ => false with
    | some result => result
    | none => mismatched [⟨[], .noAlternative⟩]

end Checked
end ComposeLint
