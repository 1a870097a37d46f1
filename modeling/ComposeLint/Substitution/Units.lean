import ComposeLint.Text.Search
import ComposeLint.Text.Units

/-!
# Substitutions in texts of units

A text may also be given by its sixteen-bit units, one number for each. Then half of a character can
stand alone, and a separator can be such a half, which no list of characters shows. `Units.mark`
reads units as `Substitution.mark` reads characters, so that a unit is exposed when it is outside
every `${…}` group and no part of an escape. Offsets are positions of units.
-/

namespace ComposeLint.Substitution.Units

/-- The unit of `$`. -/
@[match_pattern] def dollar : Nat := 0x24

/-- The unit of the brace that opens a group behind a dollar. -/
@[match_pattern] def opening : Nat := 0x7B

/-- The unit of the brace that closes a group. -/
@[match_pattern] def closing : Nat := 0x7D

/-- A unit and whether it is exposed. -/
abbrev Marked := Nat × Bool

/-- The marks of units that are read inside `depth` open groups. -/
def mark : Nat → List Nat → List Marked
  | _, [] => []
  | depth, dollar :: dollar :: rest => (dollar, false) :: (dollar, false) :: mark depth rest
  | depth, dollar :: opening :: rest =>
    (dollar, false) :: (opening, false) :: mark (depth + 1) rest
  | depth + 1, closing :: rest => (closing, false) :: mark depth rest
  | depth, u :: rest => (u, depth == 0) :: mark depth rest

variable {depth u : Nat} {units : List Nat}

@[simp] theorem mark_nil : mark depth [] = [] := by
  cases depth <;> rfl

@[simp] theorem mark_escape : mark depth (dollar :: dollar :: units) =
    (dollar, false) :: (dollar, false) :: mark depth units := by
  cases depth <;> rfl

@[simp] theorem mark_opening : mark depth (dollar :: opening :: units) =
    (dollar, false) :: (opening, false) :: mark (depth + 1) units := by
  cases depth <;> rfl

@[simp] theorem mark_closing : mark (depth + 1) (closing :: units) =
    (closing, false) :: mark depth units := rfl

/-- A unit that begins nothing and ends nothing is ordinary. -/
theorem mark_ordinary
    (hdollar : u = dollar → ∀ rest, units ≠ dollar :: rest ∧ units ≠ opening :: rest)
    (hclosing : u = closing → depth = 0) :
    mark depth (u :: units) = (u, depth == 0) :: mark depth units := by
  rw [mark]
  · exact fun rest hu hunits => (hdollar hu rest).1 hunits
  · exact fun rest hu hunits => (hdollar hu rest).2 hunits
  · exact fun n hdepth hu => Nat.succ_ne_zero n (hdepth.symm.trans (hclosing hu))

/-- Marks are put on units and do not change them. -/
theorem map_fst_mark (depth : Nat) (units : List Nat) :
    (mark depth units).map Prod.fst = units := by
  fun_induction mark depth units <;> simp_all [dollar, opening, closing]

/-- The offsets of the exposed occurrences of `sep`. -/
def positions (sep : Nat) (units : List Nat) : List Nat :=
  Text.positions (· == (sep, true)) 0 (mark 0 units)

/-- **The parts of a text between the exposed occurrences of `sep`.** -/
def split (sep : Nat) (units : List Nat) : List (List Nat) :=
  Text.slices 0 (positions sep units) units

/-- The offset of the first exposed occurrence of `sep`. -/
def firstPosition? (sep : Nat) (units : List Nat) : Option Nat := (positions sep units).head?

/-- The offset of the last exposed occurrence of `sep`. -/
def lastPosition? (sep : Nat) (units : List Nat) : Option Nat := (positions sep units).getLast?

/-- The separator that a text names: a text of one unit. -/
def separator? : List Nat → Option Nat
  | [u] => some u
  | _ => none

end ComposeLint.Substitution.Units
