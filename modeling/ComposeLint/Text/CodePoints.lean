/-!
# Sets of code points

Two ways to write down a set of code points: inclusive ranges, and runs that leave out every
so many.
-/

namespace ComposeLint.Text

/-- Whether the code point is in one of the inclusive ranges. -/
def inRanges (ranges : List (Nat × Nat)) (n : Nat) : Bool :=
  ranges.any fun r => r.1 ≤ n && n ≤ r.2

/-- Code points `first`, `first + stride`, … up to `last`. -/
structure CodeRun where
  first : Nat
  last : Nat
  stride : Nat

/-- Whether a code point is on a run. -/
def CodeRun.contains (run : CodeRun) (n : Nat) : Bool :=
  run.first ≤ n && n ≤ run.last && (n - run.first) % run.stride == 0

end ComposeLint.Text
