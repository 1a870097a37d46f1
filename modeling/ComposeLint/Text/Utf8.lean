import ComposeLint.Text.Units

/-!
# Text from bytes

UTF-8 is decoded character by character. `step` reads one character, or finds how many bytes of
a broken one belong together; `decode` shows each of those as one replacement character, and
`decode?` refuses them.
-/

namespace ComposeLint.Text.Utf8

/-- How many bytes follow a first byte, the bits of the character it holds, and the range of the
byte after it. A narrower range excludes overlong forms, surrogates and what is out of bounds. -/
def lead? (b : Nat) : Option (Nat × Nat × Nat × Nat) :=
  if b < 0x80 then some (0, b, 0x80, 0xBF)
  else if 0xC2 ≤ b ∧ b ≤ 0xDF then some (1, b - 0xC0, 0x80, 0xBF)
  else if b = 0xE0 then some (2, 0, 0xA0, 0xBF)
  else if b = 0xED then some (2, 0xD, 0x80, 0x9F)
  else if 0xE1 ≤ b ∧ b ≤ 0xEF then some (2, b - 0xE0, 0x80, 0xBF)
  else if b = 0xF0 then some (3, 0, 0x90, 0xBF)
  else if 0xF1 ≤ b ∧ b ≤ 0xF3 then some (3, b - 0xF0, 0x80, 0xBF)
  else if b = 0xF4 then some (3, 4, 0x80, 0x8F)
  else none

/-- The character that `count` further bytes complete. Bytes that cannot go on end it early. -/
def complete : Nat → Nat → Nat → Nat → List Nat → Option Char × List Nat
  | 0, value, _, _, rest => (some (Char.ofNat value), rest)
  | _ + 1, _, _, _, [] => (none, [])
  | count + 1, value, low, high, b :: rest =>
    if low ≤ b ∧ b ≤ high then complete count (value * 0x40 + (b - 0x80)) 0x80 0xBF rest
    else (none, b :: rest)

/-- Reads one character; none when it is broken. -/
def step (b : Nat) (rest : List Nat) : Option Char × List Nat :=
  match lead? b with
  | some (count, value, low, high) => complete count value low high rest
  | none => (none, rest)

theorem complete_length (count value low high : Nat) (rest : List Nat) :
    (complete count value low high rest).2.length ≤ rest.length := by
  induction count generalizing value low high rest with
  | zero => simp [complete]
  | succ count ih =>
    cases rest with
    | nil => simp [complete]
    | cons b rest =>
      unfold complete
      split
      · exact Nat.le_succ_of_le (ih _ _ _ rest)
      · simp

theorem step_length (b : Nat) (rest : List Nat) : (step b rest).2.length ≤ rest.length := by
  unfold step
  split
  · exact complete_length ..
  · simp

/-- The characters that bytes spell; none stands for a broken one. -/
def characters : List Nat → List (Option Char)
  | [] => []
  | b :: rest => (step b rest).1 :: characters (step b rest).2
termination_by bytes => bytes.length
decreasing_by exact Nat.lt_succ_of_le (step_length b rest)

/-- The text that bytes spell, with a replacement for each broken character. -/
def decode (bytes : List Nat) : List Char := (characters bytes).map fun c => c.getD '\uFFFD'

/-- The text that bytes spell, if no character is broken. -/
def decode? (bytes : List Nat) : Option (List Char) := (characters bytes).mapM id

end ComposeLint.Text.Utf8
