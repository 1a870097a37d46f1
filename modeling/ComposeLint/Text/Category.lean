import ComposeLint.Text.Category.Ranges

/-!
# General categories

The categories of characters that a class of characters can name, each with its short name.
-/

namespace ComposeLint.Text

/-- A general category of characters, or a group of them. -/
inductive Category where
  | letter | smallLetter | capitalLetter | decimalDigit | letterNumber | space | separator
  | control
  /-- What is no character to be seen. -/
  | other
  | punctuation
  | connector
  deriving DecidableEq, Repr

namespace Category

/-- The short name of a category. -/
def symbol : Category → String
  | letter => "L"
  | smallLetter => "Ll"
  | capitalLetter => "Lu"
  | decimalDigit => "Nd"
  | letterNumber => "Nl"
  | space => "Zs"
  | separator => "Z"
  | control => "Cc"
  | other => "C"
  | punctuation => "P"
  | connector => "Pc"

/-- Whether a code point is of a category. -/
def contains (n : Nat) : Category → Bool
  | letter =>
    smallLetterRuns.any (·.contains n) || capitalLetterRuns.any (·.contains n) ||
      inRanges caselessLetterRanges n
  | smallLetter => smallLetterRuns.any (·.contains n)
  | capitalLetter => capitalLetterRuns.any (·.contains n)
  | decimalDigit => inRanges decimalDigitRanges n
  | letterNumber => inRanges letterNumberRanges n
  | space => inRanges spaceRanges n
  | separator => inRanges separatorRanges n
  | control => inRanges controlRanges n
  | other => inRanges otherRanges n
  | punctuation => inRanges punctuationRanges n
  | connector => inRanges connectorRanges n

end Category
end ComposeLint.Text
