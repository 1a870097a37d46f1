import ComposeLint.Shape.Checked

/-!
# Shapes

A `Check` reads a value of some type from a tree, or from a place where nothing stands, and
gives the value or the issues. Checks for scalars, lists and mappings are put together to
checks for whole documents. An open mapping reads the fields it names and lets every other key
be; a closed one complains of the others, after the complaints about its fields.
-/

namespace ComposeLint

/-- Reads a value from a tree that may be missing. -/
abbrev Check (α : Type) := Option Tree → Checked α

namespace Check

variable {α : Type}

/-- The result where another kind was wanted. -/
def mismatch (wanted : Wanted) (found : Option Tree) : Checked α :=
  .mismatched [⟨[], .mismatch wanted (Kind.of found)⟩]

/-- A check whose values are mapped. -/
def mapped {β : Type} (f : α → β) (check : Check α) : Check β := fun found => (check found).map f

/-- A text. -/
def text : Check String
  | some (.text s) => .valid s
  | found => mismatch (.kind .string) found

/-- A text with at least one character. -/
def nonemptyText : Check String
  | some (.text s) => if s.isEmpty then .flawed [⟨[], .emptyText⟩] else .valid s
  | found => mismatch (.kind .string) found

/-- A truth value. -/
def flag : Check Bool
  | some (.bool b) => .valid b
  | found => mismatch (.kind .boolean) found

/-- A number; what is not a number is none. -/
def number : Check Number
  | some (.number .notANumber) => .mismatched [⟨[], .mismatch (.kind .number) .nan⟩]
  | some (.number n) => .valid n
  | found => mismatch (.kind .number) found

/-- A whole number. -/
def whole : Check Number := fun found =>
  match number found with
  | .valid n => if n.isWhole then .valid n else .flawed [⟨[], .fraction⟩]
  | other => other

/-- A null. -/
def nothing : Check Unit
  | some .null => .valid ()
  | found => mismatch (.kind .null) found

/-- One of several texts, each standing for a value. -/
def oneOf (options : List (String × α)) : Check α
  | some (.text s) =>
    match options.lookup s with
    | some value => .valid value
    | none => .mismatched [⟨[], .unlisted (options.map Prod.fst) s⟩]
  | found => mismatch (.oneOf (options.map Prod.fst)) found

/-- Each item of a list checked at its position. -/
def items (check : Check α) (values : List Tree) : Checked (List α) :=
  .all (values.zipIdx.map fun (value, i) => (check (some value)).within (.index i))

/-- A list. -/
def list (check : Check α) : Check (List α) := fun found =>
  match found.bind Tree.items? with
  | some values => items check values
  | none => mismatch (.kind .array) found

/-- A list with at least one item. -/
def nonemptyList (check : Check α) : Check (List α) := fun found =>
  match found.bind Tree.items? with
  | some values => if values.isEmpty then .flawed [⟨[], .emptyList⟩] else items check values
  | none => mismatch (.kind .array) found

/-- A mapping, read by its entries. -/
def object (read : List (String × Tree) → Checked α) : Check α
  | some tree =>
    match tree.entries? with
    | some entries => read entries
    | none => mismatch (.kind .object) (some tree)
  | none => mismatch (.kind .object) none

/-- The key that no mapping keeps as an entry of its own. -/
def reservedKey : String := "__proto__"

/-- A mapping from any keys to values of one shape. The reserved key is checked like the others
and not kept. -/
def record (check : Check α) : Check (List (String × α)) :=
  object fun entries =>
    (Checked.all (entries.map fun (key, value) =>
      (check (some value)).within (.key key) |>.map fun v => (key, v))).map
      (·.filter (·.1 ≠ reservedKey))

/-- A mapping from any keys to anything. -/
def anyRecord : Check (List (String × Tree)) :=
  record fun
    | some tree => .valid tree
    | none => .valid .null

/-- What stands at a key of a mapping. -/
def field (entries : List (String × Tree)) (name : String) (check : Check α) : Checked α :=
  (check (entries.lookup name)).within (.key name)

/-- Only the given keys may occur. -/
def onlyKeys (names : List String) (entries : List (String × Tree)) : Checked Unit :=
  match (entries.map Prod.fst).filter fun key => !names.contains key with
  | [] => .valid ()
  | extra => .flawed [⟨[], .unknownKeys extra⟩]

/-- A value that may be missing. -/
def optional (check : Check α) : Check (Option α)
  | none => .valid none
  | found => (check found).map some

/-- A value that may be missing or null. -/
def nullish (check : Check α) : Check (Option α)
  | none => .valid none
  | some .null => .valid none
  | found => (check found).map some

/-- A value with a default for a missing one. -/
def withDefault (value : α) (check : Check α) : Check α
  | none => .valid value
  | found => check found

/-- The first of several checks that fits. -/
def either (checks : List (Check α)) : Check α := fun found =>
  .first (checks.map fun check => check found)

end Check
end ComposeLint
