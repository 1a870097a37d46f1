/-!
# Blank characters and trimming

One set of blank characters is used wherever text is trimmed or blanks are removed: the ASCII
controls from tab to carriage return, the spaces of Unicode, the two line and paragraph
separators, and the byte order mark. The zero-width space is not blank.
-/

namespace ComposeLint.Text

/-- Blank characters: the ones that trimming removes. -/
def isBlank (c : Char) : Bool :=
  let n := c.toNat
  (0x09 ≤ n && n ≤ 0x0D) || n == 0x20 || n == 0xA0 || n == 0x1680 ||
    (0x2000 ≤ n && n ≤ 0x200A) || n == 0x2028 || n == 0x2029 || n == 0x202F ||
    n == 0x205F || n == 0x3000 || n == 0xFEFF

/-- The text without the blanks at its end. -/
def trimEnd (cs : List Char) : List Char := (cs.reverse.dropWhile isBlank).reverse

/-- The text without the blanks at its start and at its end. -/
def trim (cs : List Char) : List Char := trimEnd (cs.dropWhile isBlank)

/-- A text without blanks at its ends is not trimmed. -/
theorem trim_eq_self {cs : List Char} (hhead : ∀ c ∈ cs.head?, isBlank c = false)
    (hlast : ∀ c ∈ cs.getLast?, isBlank c = false) : trim cs = cs := by
  have hdrop : ∀ {text : List Char}, (∀ c ∈ text.head?, isBlank c = false) →
      text.dropWhile isBlank = text := by
    intro text h
    cases text with
    | nil => rfl
    | cons c text => exact List.dropWhile_cons_of_neg (by simp [h c rfl])
  rw [trim, hdrop hhead, trimEnd, hdrop (by rwa [List.head?_reverse]),
    List.reverse_reverse]

/-- The text without any blank. -/
def withoutBlanks (cs : List Char) : List Char := cs.filter fun c => !isBlank c

end ComposeLint.Text
