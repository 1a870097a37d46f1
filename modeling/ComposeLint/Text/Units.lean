/-!
# Sixteen-bit units

Positions, lengths and orders that a reader sees are counted in sixteen-bit units: a
character up to U+FFFF takes one unit and any other takes two. Text itself stays a list of
characters; this file only measures it.

`unitsLe` orders texts by their units. It differs from the order by code points exactly where
a character above U+FFFF meets one from U+E000 to U+FFFF.
-/

namespace ComposeLint.Text

/-- How many sixteen-bit units a character takes. -/
def unitsOf (c : Char) : Nat := if c.toNat < 0x10000 then 1 else 2

/-- The length of a text in sixteen-bit units. -/
def units : List Char → Nat
  | [] => 0
  | c :: rest => unitsOf c + units rest

/-- The sixteen-bit units that spell a character. -/
def unitValues (c : Char) : List Nat :=
  if c.toNat < 0x10000 then [c.toNat]
  else [0xD800 + (c.toNat - 0x10000) / 0x400, 0xDC00 + (c.toNat - 0x10000) % 0x400]

/-- The lexicographic order of lists of units. -/
def valuesLe : List Nat → List Nat → Bool
  | [], _ => true
  | _ :: _, [] => false
  | a :: as, b :: bs => a < b || (a == b && valuesLe as bs)

/-- The order of texts by their sixteen-bit units. -/
def unitsLe (s t : String) : Bool :=
  valuesLe (s.toList.flatMap unitValues) (t.toList.flatMap unitValues)

/-- The text that a list of sixteen-bit units spells. A high half followed by a low half is one
character; a half that stands alone is shown as the replacement character. -/
def ofUnitValues : List Nat → List Char
  | [] => []
  | [u] => [if 0xD800 ≤ u ∧ u < 0xE000 then '\uFFFD' else Char.ofNat u]
  | u :: v :: rest =>
    if 0xD800 ≤ u ∧ u < 0xDC00 ∧ 0xDC00 ≤ v ∧ v < 0xE000 then
      Char.ofNat (0x10000 + (u - 0xD800) * 0x400 + (v - 0xDC00)) :: ofUnitValues rest
    else
      (if 0xD800 ≤ u ∧ u < 0xE000 then '\uFFFD' else Char.ofNat u) :: ofUnitValues (v :: rest)

end ComposeLint.Text
