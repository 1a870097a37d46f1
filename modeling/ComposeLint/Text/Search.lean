/-!
# Finding and cutting

Plain searches in a text: whether one text occurs in another, where elements of one sort are, and
the parts of a text between the occurrences of one character. Nothing here knows of substitutions;
the cuts that respect them are in `ComposeLint.Substitution`.
-/

namespace ComposeLint.Text

/-- Whether `needle` occurs in the text as consecutive characters. -/
def occursIn (needle : List Char) : List Char → Bool
  | [] => needle.isEmpty
  | c :: rest => needle.isPrefixOf (c :: rest) || occursIn needle rest

/-- **Occurring is being an infix.** -/
theorem occursIn_iff (needle text : List Char) :
    occursIn needle text = true ↔ ∃ before after, text = before ++ needle ++ after := by
  induction text with
  | nil =>
    constructor
    · intro h
      exact ⟨[], [], by simpa [occursIn] using h⟩
    · rintro ⟨before, after, h⟩
      simp at h
      simp [occursIn, h]
  | cons c rest ih =>
    simp only [occursIn, Bool.or_eq_true, ih, List.isPrefixOf_iff_prefix]
    constructor
    · rintro (⟨after, h⟩ | ⟨before, after, h⟩)
      · exact ⟨[], after, by simpa using h.symm⟩
      · exact ⟨c :: before, after, by simp [h]⟩
    · rintro ⟨before, after, h⟩
      cases before with
      | nil => exact .inl ⟨after, by simpa using h.symm⟩
      | cons b before =>
        simp at h
        exact .inr ⟨before, after, by simp [h.2]⟩

/-- Whether `needle` occurs in the text, for strings. -/
def contains (text needle : String) : Bool := occursIn needle.toList text.toList

/-- The parts of a text between the occurrences of `sep`; there is always at least one. -/
def pieces (sep : Char) : List Char → List (List Char)
  | [] => [[]]
  | c :: rest =>
    if c = sep then [] :: pieces sep rest
    else
      match pieces sep rest with
      | [] => [[c]]
      | part :: parts => (c :: part) :: parts

/-- The text cut around the first element that satisfies `p`. -/
def cutFirst? {α : Type} (p : α → Bool) : List α → Option (List α × List α)
  | [] => none
  | a :: rest =>
    if p a then some ([], rest)
    else (cutFirst? p rest).map fun cut => (a :: cut.1, cut.2)

/-- The text cut around the last element that satisfies `p`. -/
def cutLast? {α : Type} (p : α → Bool) : List α → Option (List α × List α)
  | [] => none
  | a :: rest =>
    match cutLast? p rest with
    | some cut => some (a :: cut.1, cut.2)
    | none => if p a then some ([], rest) else none

/-- The positions of the elements that satisfy `p`, in a list whose first position is `start`. -/
def positions {α : Type} (p : α → Bool) (start : Nat) : List α → List Nat
  | [] => []
  | a :: rest =>
    if p a then start :: positions p (start + 1) rest else positions p (start + 1) rest

/-- The parts of a list before, between and after ascending positions, from `start` on. -/
def slices {α : Type} (start : Nat) : List Nat → List α → List (List α)
  | [], text => [text.drop start]
  | position :: rest, text =>
    (text.take position).drop start :: slices (position + 1) rest text

/-- The texts joined by `sep`. -/
def joined (sep : String) (parts : List String) : String := sep.intercalate parts

end ComposeLint.Text
