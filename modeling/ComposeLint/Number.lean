import ComposeLint.Number.Shortest

/-!
# Numbers of a manifest

A number in a manifest is the decimal with the fewest digits that denotes it, an infinity, or
not a number at all. `Number.nearest` makes one from any written decimal: the value is first
rounded to 53 binary digits, so two spellings of one value give one number.

`Number.text` is how a number is shown: positional from a millionth up to 21 digits before
the point, with an exponent outside of that.
-/

namespace ComposeLint

/-- A numeric scalar. -/
inductive Number where
  | finite (value : Decimal)
  | infinite (negative : Bool)
  | notANumber
  deriving DecidableEq, Repr

namespace Number

/-- The number that `± digits · 10 ^ exponent` denotes. Beyond the largest number lies infinity,
and what is less than half of the smallest one is zero. -/
def nearest (negative : Bool) (digits : Nat) (exponent : Int) : Number :=
  if digits = 0 then .finite .zero
  else
    let top := exponent + Decimal.digitCount digits
    if 400 < top then .infinite negative
    else if top < -400 then .finite .zero
    else
      let (num, den) := Binary.scaled 10 digits 1 exponent
      match Binary.nearest num den with
      | none => .infinite negative
      | some b =>
        if b.significand = 0 then .finite .zero else .finite (Decimal.shortest negative b)

/-- The number of a natural number. -/
def ofNat (n : Nat) : Number := nearest false n 0

/-- Whether the number has no fraction. Infinity has none, yet is no whole number. -/
def isWhole : Number → Bool
  | .finite value => 0 ≤ value.exponent
  | _ => false

/-- The text of `± digits · 10 ^ exponent`, with `places` the number of digits before the point. -/
def decimalText (value : Decimal) : List Char :=
  let digits := Nat.toDigits 10 value.digits
  let places : Int := digits.length + value.exponent
  let unsigned :=
    if 0 ≤ value.exponent ∧ places ≤ 21 then
      digits ++ List.replicate value.exponent.toNat '0'
    else if 0 < places ∧ places ≤ 21 then
      digits.take places.toNat ++ '.' :: digits.drop places.toNat
    else if -6 < places ∧ places ≤ 0 then
      '0' :: '.' :: (List.replicate (-places).toNat '0' ++ digits)
    else
      let power := places - 1
      let sign := if power < 0 then '-' else '+'
      let fraction := if digits.length = 1 then [] else '.' :: digits.drop 1
      digits.take 1 ++ fraction ++ 'e' :: sign :: Nat.toDigits 10 power.natAbs
  if value.negative then '-' :: unsigned else unsigned

/-- The text of a number. -/
def text : Number → String
  | .finite value => String.ofList (decimalText value)
  | .infinite false => "Infinity"
  | .infinite true => "-Infinity"
  | .notANumber => "NaN"

/-! ## Reading a written decimal -/

/-- The value of a run of decimal digits. -/
def digitsValue (cs : List Char) : Nat :=
  cs.foldl (fun n c => 10 * n + (c.toNat - '0'.toNat)) 0

/-- The digits at the start of a text, and the rest. -/
def spanDigits (cs : List Char) : List Char × List Char := cs.span Char.isDigit

/-- The exponent that a text consists of, without its letter: a sign and at least one digit. -/
def exponent? (cs : List Char) : Option Int :=
  let (negative, digits) :=
    match cs with
    | '-' :: rest => (true, rest)
    | '+' :: rest => (false, rest)
    | _ => (false, cs)
  if digits.isEmpty || !digits.all Char.isDigit then none
  else some (if negative then -(digitsValue digits : Int) else digitsValue digits)

/-- The number that an unsigned decimal denotes: digits, a point with further digits, and an
exponent, each of the parts optional but for one digit before the exponent. -/
def ofDecimal? (negative : Bool) (cs : List Char) : Option Number :=
  let (whole, rest) := spanDigits cs
  let (fraction, rest) :=
    match rest with
    | '.' :: rest => spanDigits rest
    | _ => ([], rest)
  if whole.isEmpty && fraction.isEmpty then none
  else
    let power :=
      match rest with
      | [] => some 0
      | c :: rest => if c == 'e' || c == 'E' then exponent? rest else none
    power.map fun power =>
      nearest negative (digitsValue (whole ++ fraction)) (power - fraction.length)

end Number
end ComposeLint
