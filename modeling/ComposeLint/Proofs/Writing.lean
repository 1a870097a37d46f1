import ComposeLint.FileTree
import ComposeLint.Proofs.ReadingOrder

/-!
# Which files can be written

A path from the root is walked name by name. `Writable` says what the walk demands of a tree: every
place that is left is a directory, no name on the way is too long, and no directory stands at the
end. A file can be written exactly under this condition (`write_of_writable`,
`write_of_not_writable`), and writing it changes nothing else (`lookup_setText`).
-/

namespace ComposeLint

namespace FileTree

variable {tree : FileTree} {path text : String} {place target : Place} {steps : List String}

/-! ## Walking -/

theorem advance_append (place : Place) (before after : List String) :
    advance place (before ++ after) = advance (advance place before) after := by
  induction before generalizing place with
  | nil => rfl
  | cons name before ih =>
    rw [List.cons_append, advance, advance]
    split
    · exact ih place
    · split <;> exact ih _

theorem advance_cons (place : Place) (name : String) (rest : List String) :
    advance place (name :: rest) = advance (advance place [name]) rest :=
  advance_append place [name] rest

/-- The way along some names is open: every place that is left is a directory, and no name is too
long. -/
def IsOpen (tree : FileTree) (place : Place) (steps : List String) : Prop :=
  ∀ before name after, steps = before ++ name :: after →
    tree.isDirectory (advance place before) = true ∧ name.utf8ByteSize ≤ nameLimit

theorem isOpen_nil : tree.IsOpen place [] := fun before _ _ h => by
  cases before <;> cases h

theorem isOpen_cons {name : String} :
    tree.IsOpen place (name :: steps) ↔
      (tree.isDirectory place = true ∧ name.utf8ByteSize ≤ nameLimit) ∧
        tree.IsOpen (advance place [name]) steps := by
  constructor
  · intro h
    refine ⟨h [] name steps rfl, fun before other after heq => ?_⟩
    rw [← advance_cons]
    exact h (name :: before) other after (by rw [heq, List.cons_append])
  · rintro ⟨hfirst, hrest⟩ before other after heq
    cases before with
    | nil =>
      obtain ⟨rfl, rfl⟩ := List.cons.inj heq
      exact hfirst
    | cons step before =>
      obtain ⟨rfl, hsteps⟩ := List.cons.inj heq
      rw [advance_cons]
      exact hrest before other after hsteps

/-- Nothing blocks a place exactly if it is a directory. -/
theorem blocked?_eq_none_iff : tree.blocked? place path = none ↔ tree.isDirectory place = true := by
  rw [blocked?]
  by_cases hdirectory : tree.isDirectory place = true
  · simp [hdirectory]
  · rw [if_neg hdirectory]
    split <;> simp [hdirectory]

/-- **A walk arrives** where the names lead exactly if the way is open. -/
theorem walk_eq_ok_iff :
    tree.walk path place steps = .ok target ↔
      tree.IsOpen place steps ∧ target = advance place steps := by
  -- On the names that are left, from whatever place has been reached.
  induction steps generalizing place with
  | nil =>
    rw [walk, advance, and_iff_right isOpen_nil, Except.ok.injEq, eq_comm]
  | cons name rest ih =>
    rw [walk, isOpen_cons, advance_cons place name rest, and_assoc, ← ih]
    cases hblocked : tree.blocked? place path with
    | some fault =>
      have hdirectory : tree.isDirectory place ≠ true := fun h => by
        rw [blocked?_eq_none_iff.mpr h] at hblocked
        cases hblocked
      simp [hdirectory]
    | none =>
      rw [blocked?_eq_none_iff] at hblocked
      by_cases hlong : nameLimit < name.utf8ByteSize
      · simp [hlong, Nat.not_le.mpr hlong]
      · simp [hlong, hblocked, Nat.not_lt.mp hlong]

/-- A path is not refused if it has no null character and is not too long. -/
theorem refused?_eq_none_iff :
    refused? path = none ↔ '\x00' ∉ path.toList ∧ path.utf8ByteSize ≤ pathLimit := by
  simp [refused?, nullFault?]

/-! ## Writing -/

/-- Whether the file of a path from the root can be written. -/
structure Writable (tree : FileTree) (path : String) : Prop where
  noNull : '\x00' ∉ path.toList
  fits : path.utf8ByteSize ≤ pathLimit
  isOpen : tree.IsOpen [] (names path)
  noDirectory : tree.isDirectory (resolve [] path) = false

theorem isAbsolute_pathOf (place : Place) : isAbsolute (pathOf place) = true := by
  simp [isAbsolute, pathOf]

theorem pathOf_ne_empty (place : Place) : (pathOf place).isEmpty = false := by
  simp [pathOf]

/-- Following the path of a place walks from the root. -/
theorem follow_pathOf_eq_ok_iff :
    tree.follow (pathOf place) = .ok target ↔
      refused? (pathOf place) = none ∧ tree.IsOpen [] (names (pathOf place)) ∧
        target = resolve [] (pathOf place) := by
  rw [follow]
  cases refused? (pathOf place) with
  | some fault => simp
  | none => simp [pathOf_ne_empty, isAbsolute_pathOf, walk_eq_ok_iff, resolve]

/-- **A file that can be written is written.** -/
theorem write_of_writable (h : tree.Writable (pathOf place)) (text : String) :
    tree.write place text =
      .ok { tree with files := setText (resolve [] (pathOf place)) text tree.files } := by
  have hfollow : tree.follow (pathOf place) = .ok (resolve [] (pathOf place)) :=
    follow_pathOf_eq_ok_iff.mpr ⟨refused?_eq_none_iff.mpr ⟨h.noNull, h.fits⟩, h.isOpen, rfl⟩
  rw [write, hfollow]
  simp only [bind, Except.bind, h.noDirectory]
  rfl

theorem write_of_not_writable (h : ¬ tree.Writable (pathOf place)) (text : String) :
    ∃ fault, tree.write place text = .error fault := by
  rw [write]
  cases hfollow : tree.follow (pathOf place) with
  | error fault => exact ⟨fault, rfl⟩
  | ok target =>
    obtain ⟨hrefused, hopen, rfl⟩ := follow_pathOf_eq_ok_iff.mp hfollow
    obtain ⟨hnull, hfits⟩ := refused?_eq_none_iff.mp hrefused
    have hdirectory : tree.isDirectory (resolve [] (pathOf place)) = true := by
      by_contra hno
      exact h ⟨hnull, hfits, hopen, Bool.eq_false_iff.mpr hno⟩
    simp only [bind, Except.bind, hdirectory]
    exact ⟨_, rfl⟩

/-- Setting one text leaves the others. -/
theorem lookup_setText (place : Place) (text : String) (files : List (Place × String))
    (other : Place) :
    (setText place text files).lookup other =
      if other = place then some text else files.lookup other := by
  induction files with
  | nil => rw [setText, lookup_cons_eq_ite]
  | cons file rest ih =>
    obtain ⟨held, content⟩ := file
    rw [setText]
    by_cases hheld : held = place
    · subst hheld
      rw [if_pos rfl, lookup_cons_eq_ite, lookup_cons_eq_ite]
      split <;> rfl
    · rw [if_neg hheld, lookup_cons_eq_ite, lookup_cons_eq_ite, ih]
      by_cases hother : other = held
      · simp [hother, hheld]
      · simp [hother]

/-! ## Reading -/

/-- Where there are no files, none can be read. -/
theorem read_of_no_files (h : tree.files = []) (path : String) :
    ∃ fault, tree.read path = .error fault := by
  rw [read]
  cases tree.follow path with
  | error fault => exact ⟨fault, rfl⟩
  | ok place =>
    have htext : tree.text? place = none := by rw [text?, h, List.lookup_nil]
    simp only [bind, Except.bind, readAt, htext]
    split <;> exact ⟨_, rfl⟩

end FileTree

end ComposeLint
