/-!
# The nearest binary number

Numbers are kept with 53 significant binary digits and an exponent that is not below −1074.
`Binary.nearest` rounds a positive quotient to the nearest such number, a tie to the even
one, and gives none where the quotient is beyond the largest of them. All arithmetic is exact,
on natural numbers.
-/

namespace ComposeLint

/-- The number `significand · 2 ^ exponent`. -/
structure Binary where
  significand : Nat
  exponent : Int
  deriving DecidableEq, Repr

namespace Binary

/-- The least exponent. -/
def minExponent : Int := -1074

/-- The exponent of the largest numbers. -/
def maxExponent : Int := 971

/-- The least significand with all its digits. -/
def leastSignificand : Nat := Nat.pow 2 52

/-- `num / den · base ^ power` as a quotient of natural numbers. -/
def scaled (base num den : Nat) (power : Int) : Nat × Nat :=
  if 0 ≤ power then (num * Nat.pow base power.toNat, den)
  else (num, den * Nat.pow base (-power).toNat)

/-- The natural number nearest to `num / den`, a tie to the even one. -/
def roundEven (num den : Nat) : Nat :=
  let floor := num / den
  let rest := 2 * (num % den)
  if rest < den then floor
  else if den < rest then floor + 1
  else if floor % 2 = 0 then floor else floor + 1

/-- The binary number nearest to `num / den`, for positive `num` and `den`. -/
def nearest (num den : Nat) : Option Binary :=
  let low := max ((Nat.log2 num : Int) - (Nat.log2 den : Int) - 53) minExponent
  let (n, d) := scaled 2 num den (-low)
  let exponent := if 2 * leastSignificand ≤ n / d then low + 1 else low
  let (n, d) := scaled 2 num den (-exponent)
  let k := roundEven n d
  let rounded : Binary :=
    if k = 2 * leastSignificand then ⟨leastSignificand, exponent + 1⟩ else ⟨k, exponent⟩
  if rounded.exponent ≤ maxExponent then some rounded else none

/-- The bounds of the interval of values that round to the number, in quarters of its last place.
Below a power of two the neighbours are twice as close. -/
def bounds (b : Binary) : Nat × Nat :=
  let below := if b.significand = leastSignificand ∧ minExponent < b.exponent then 1 else 2
  (4 * b.significand - below, 4 * b.significand + 2)

end Binary
end ComposeLint
