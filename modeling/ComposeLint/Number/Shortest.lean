import ComposeLint.Number.Rounding

/-!
# The fewest digits that read back

A binary number is written with the fewest decimal digits that round to it again; of several
such numbers the nearest is taken. For 1, 2, … 17 digits the two neighbours of the value on
that decimal grid are tested, and the first grid with a hit gives the digits.
-/

namespace ComposeLint

/-- The number `± digits · 10 ^ exponent`. Written digits never end in zero, and zero has
exponent 0 and no sign. -/
structure Decimal where
  negative : Bool
  digits : Nat
  exponent : Int
  deriving DecidableEq, Repr

namespace Decimal

/-- Zero. -/
def zero : Decimal := ⟨false, 0, 0⟩

/-- `digits · 10 ^ exponent` with the zeros at the end of `digits` moved into the exponent. At
most `steps` zeros are moved. -/
def withoutZeros (negative : Bool) (exponent : Int) : Nat → Nat → Decimal
  | 0, digits => ⟨negative, digits, exponent⟩
  | steps + 1, digits =>
    if digits % 10 = 0 then withoutZeros negative (exponent + 1) steps (digits / 10)
    else ⟨negative, digits, exponent⟩

/-- The number of decimal digits of a natural number. -/
def digitCount (n : Nat) : Nat := (Nat.toDigits 10 n).length

/-- The power of ten of the first digit of the positive quotient `num / den`. -/
def leading (num den : Nat) : Int :=
  if den ≤ num then (digitCount (num / den) : Int) - 1
  else
    let d := digitCount (den / num)
    if num * Nat.pow 10 (d - 1) = den then 1 - (d : Int) else -(d : Int)

/-- Whether `digits · 10 ^ power` rounds to `b`. The ends of the interval belong to it when the
significand is even. -/
def roundsTo (b : Binary) (digits : Nat) (power : Int) : Bool :=
  let (lower, upper) := b.bounds
  -- `quarters / den` is `digits · 10 ^ power` in quarters of the last place of `b`
  let (n, d) := Binary.scaled 10 digits 1 power
  let (quarters, den) := Binary.scaled 2 n d (2 - b.exponent)
  if b.significand % 2 = 0 then lower * den ≤ quarters && quarters ≤ upper * den
  else lower * den < quarters && quarters < upper * den

/-- The hit on the grid of `10 ^ power`, the one nearer to `num / den` when there are two. -/
def onGrid? (b : Binary) (num den : Nat) (power : Int) : Option Nat :=
  let (n, d) := Binary.scaled 10 num den (-power)
  let floor := n / d
  match roundsTo b floor power, roundsTo b (floor + 1) power with
  | true, true => some (Binary.roundEven n d)
  | true, false => some floor
  | false, true => some (floor + 1)
  | false, false => none

/-- **The fewest digits that read back as `b`.** Seventeen digits always do. -/
def shortest (negative : Bool) (b : Binary) : Decimal :=
  let (num, den) := Binary.scaled 2 b.significand 1 b.exponent
  let top := leading num den
  let hit := (List.range 17).findSome? fun (n : Nat) =>
    (onGrid? b num den (top - n)).map fun digits => withoutZeros negative (top - n) 18 digits
  hit.getD zero

end Decimal
end ComposeLint
