import ComposeLint.Text.Search
import Mathlib.Data.List.Basic

/-!
# Cuts and their positions

A list is cut at the elements that satisfy a predicate: everywhere, at the first one or at the last
one. All three are read off the positions of these elements (`splitOnP_eq_slices`,
`cutFirst?_eq_map_head?`, `cutLast?_eq_map_getLast?`). They also survive spelling, where each
element is replaced by a list, as long as the elements to cut at are spelled by one element of the
same sort and no others are (`Spells`).
-/

namespace ComposeLint.Text

variable {α β : Type} {p : α → Bool} {q : β → Bool} {spell : α → List β} {xs ys : List α}

/-! ## Positions -/

theorem positions_eq_map (p : α → Bool) (start : Nat) (xs : List α) :
    positions p start xs = (positions p 0 xs).map (· + start) := by
  induction xs generalizing start with
  | nil => rfl
  | cons x xs ih =>
    have hshift : positions p (start + 1) xs = (positions p 1 xs).map (· + start) := by
      rw [ih (start + 1), ih 1, List.map_map]
      exact List.map_congr_left fun i _ => by simp; omega
    by_cases hx : p x = true
    · simp [positions, hx, hshift]
    · simp [positions, hx, hshift]

theorem positions_append (start : Nat) (xs ys : List α) :
    positions p start (xs ++ ys) =
      positions p start xs ++ positions p (start + xs.length) ys := by
  induction xs generalizing start with
  | nil => rfl
  | cons x xs ih =>
    have hlength : start + 1 + xs.length = start + (xs.length + 1) := by omega
    by_cases hx : p x = true
    · simp [positions, hx, ih, hlength]
    · simp [positions, hx, ih, hlength]

theorem positions_eq_nil (h : ∀ x ∈ xs, p x = false) (start : Nat) : positions p start xs = [] := by
  induction xs generalizing start with
  | nil => rfl
  | cons x xs ih =>
    rw [List.forall_mem_cons] at h
    simp [positions, h.1, ih h.2]

/-- No position comes before the start. -/
theorem le_of_mem_positions {start i : Nat} (h : i ∈ positions p start xs) : start ≤ i := by
  rw [positions_eq_map, List.mem_map] at h
  obtain ⟨j, -, rfl⟩ := h
  omega

/-- No position comes behind the end. -/
theorem lt_of_mem_positions {start i : Nat} (h : i ∈ positions p start xs) :
    i < start + xs.length := by
  induction xs generalizing start with
  | nil => cases h
  | cons x xs ih =>
    have hrest : i ∈ positions p (start + 1) xs → i < start + (xs.length + 1) := fun h => by
      have hlt := ih h
      omega
    rw [positions] at h
    split at h
    · obtain rfl | h := List.mem_cons.mp h
      · simp
      · exact hrest h
    · exact hrest h

/-- The run at the end of a list stands behind any element that does not belong to it. -/
theorem takeWhile_reverse_append_cons {x : α} (hx : p x = false) (before after : List α) :
    (before ++ x :: after).reverse.takeWhile p = after.reverse.takeWhile p := by
  have hstop : ([x] ++ before.reverse).takeWhile p = [] := by simp [hx]
  rw [List.reverse_append, List.reverse_cons, List.append_assoc, List.takeWhile_append, hstop,
    List.append_nil]
  split
  · next hall => exact ((List.takeWhile_prefix p).eq_of_length hall).symm
  · rfl

/-! ## Cuts by positions -/

/-- A part that begins one element earlier has that element in front. -/
theorem slices_eq_modifyHead {start : Nat} {text : List α} {x : α} (hx : text[start]? = some x) :
    ∀ {cuts : List Nat}, (∀ i ∈ cuts, start + 1 ≤ i) →
      slices start cuts text = (slices (start + 1) cuts text).modifyHead (x :: ·) := by
  have hdrop : ∀ n, start < n → (text.take n).drop start = x :: (text.take n).drop (start + 1) := by
    intro n hn
    refine List.drop_eq_getElem?_toList_append.trans ?_
    rw [List.getElem?_take_of_lt hn, hx]
    rfl
  intro cuts hcuts
  cases cuts with
  | nil =>
    have hlength : start < text.length := (List.getElem?_eq_some_iff.mp hx).1
    have hwhole := hdrop text.length hlength
    rw [List.take_length] at hwhole
    simp [slices, hwhole]
  | cons i cuts =>
    have hi := hcuts i List.mem_cons_self
    simp [slices, hdrop i hi]

theorem slices_map (f : α → β) (start : Nat) (cuts : List Nat) (xs : List α) :
    (slices start cuts xs).map (List.map f) = slices start cuts (xs.map f) := by
  induction cuts generalizing start with
  | nil => simp [slices]
  | cons i cuts ih => simp [slices, ih, List.map_take, List.map_drop]

/-- **Cutting everywhere** gives the parts between the positions. -/
theorem splitOnP_eq_slices (p : α → Bool) (xs : List α) :
    xs.splitOnP p = slices 0 (positions p 0 xs) xs := by
  -- What has been read stays in front, so that positions and parts speak of the same list.
  have key : ∀ (xs before : List α), xs.splitOnP p =
      slices before.length (positions p before.length xs) (before ++ xs) := by
    intro xs
    induction xs with
    | nil => intro before; simp [positions, slices]
    | cons x xs ih =>
      intro before
      have hrest := ih (before ++ [x])
      rw [List.append_assoc, List.singleton_append, List.length_append, List.length_singleton]
        at hrest
      rw [List.splitOnP_cons_eq_if_modifyHead, positions]
      by_cases hx : p x = true
      · rw [if_pos hx, if_pos hx, slices, ← hrest, List.take_left, List.drop_length]
      · rw [if_neg hx, if_neg hx, hrest]
        exact (slices_eq_modifyHead (by simp) fun i hi => le_of_mem_positions hi).symm
  exact key xs []

/-- The pieces of a text are those of the library. -/
theorem pieces_eq_splitOn (sep : Char) (cs : List Char) : pieces sep cs = cs.splitOn sep := by
  induction cs with
  | nil => rfl
  | cons c cs ih =>
    rw [pieces, ih, List.splitOn_eq_splitOnP, List.splitOn_eq_splitOnP,
      List.splitOnP_cons_eq_if_modifyHead]
    by_cases hc : c = sep
    · simp [hc]
    · cases hsplit : cs.splitOnP (· == sep) with
      | nil => exact absurd hsplit (List.splitOnP_ne_nil _ _)
      | cons part others => simp [hc]

/-- **Cutting once** is cutting at the first position. -/
theorem cutFirst?_eq_map_head? (p : α → Bool) (xs : List α) :
    cutFirst? p xs = (positions p 0 xs).head?.map fun i => (xs.take i, xs.drop (i + 1)) := by
  induction xs with
  | nil => rfl
  | cons x xs ih =>
    by_cases hx : p x = true
    · simp [cutFirst?, positions, hx]
    · rw [cutFirst?, positions, if_neg hx, if_neg hx, ih, positions_eq_map p (0 + 1)]
      cases positions p 0 xs <;> simp

/-- **Cutting once at the end** is cutting at the last position. -/
theorem cutLast?_eq_map_getLast? (p : α → Bool) (xs : List α) :
    cutLast? p xs = (positions p 0 xs).getLast?.map fun i => (xs.take i, xs.drop (i + 1)) := by
  induction xs with
  | nil => rfl
  | cons x xs ih =>
    rw [cutLast?, positions, ih, positions_eq_map p (0 + 1)]
    cases hlast : (positions p 0 xs).getLast? with
    | none =>
      rw [List.getLast?_eq_none_iff] at hlast
      by_cases hx : p x = true <;> simp [hx, hlast]
    | some i =>
      by_cases hx : p x = true <;> simp [hx, List.getLast?_cons, hlast]

/-! ## Cuts and spelling -/

/-- Elements to cut at are spelled by one element to cut at, and no others have any in their
spelling. -/
structure Spells (p : α → Bool) (q : β → Bool) (spell : α → List β) : Prop where
  cut : ∀ {a}, p a = true → ∃ b, spell a = [b] ∧ q b = true
  plain : ∀ {a}, p a = false → ∀ b ∈ spell a, q b = false

theorem splitOnP_append_of_forall {before : List β} (h : ∀ b ∈ before, q b = false)
    (after : List β) :
    (before ++ after).splitOnP q = (after.splitOnP q).modifyHead (before ++ ·) := by
  induction before with
  | nil =>
    rw [List.nil_append]
    cases after.splitOnP q <;> rfl
  | cons b before ih =>
    rw [List.forall_mem_cons] at h
    rw [List.cons_append, List.splitOnP_cons_eq_if_modifyHead, h.1, ih h.2,
      List.modifyHead_modifyHead]
    rfl

theorem cutFirst?_append_of_forall {before : List β} (h : ∀ b ∈ before, q b = false)
    (after : List β) :
    cutFirst? q (before ++ after) =
      (cutFirst? q after).map fun cut => (before ++ cut.1, cut.2) := by
  induction before with
  | nil => simp
  | cons b before ih =>
    rw [List.forall_mem_cons] at h
    rw [List.cons_append, cutFirst?, h.1, ih h.2]
    simp [Function.comp_def]

/-- Where no element is to be cut at, nothing is cut. -/
theorem cutFirst?_eq_none (h : ∀ x ∈ xs, p x = false) : cutFirst? p xs = none := by
  have hnone := cutFirst?_append_of_forall h []
  rwa [List.append_nil] at hnone

theorem cutLast?_append_of_forall {before : List β} (h : ∀ b ∈ before, q b = false)
    (after : List β) :
    cutLast? q (before ++ after) = (cutLast? q after).map fun cut => (before ++ cut.1, cut.2) := by
  induction before with
  | nil => simp
  | cons b before ih =>
    rw [List.forall_mem_cons] at h
    rw [List.cons_append, cutLast?, ih h.2, h.1]
    cases cutLast? q after <;> rfl

theorem cutLast?_eq_none (h : ∀ x ∈ xs, p x = false) : cutLast? p xs = none := by
  have hnone := cutLast?_append_of_forall h []
  rwa [List.append_nil] at hnone

/-- **A spelled list is cut into the spelled parts.** -/
theorem splitOnP_flatMap (hspell : Spells p q spell) (xs : List α) :
    (xs.flatMap spell).splitOnP q = (xs.splitOnP p).map (·.flatMap spell) := by
  induction xs with
  | nil => rfl
  | cons x xs ih =>
    rw [List.flatMap_cons, List.splitOnP_cons_eq_if_modifyHead]
    by_cases hx : p x = true
    · obtain ⟨b, hb, hcut⟩ := hspell.cut hx
      rw [if_pos hx, hb, List.singleton_append, List.splitOnP_cons_eq_if_modifyHead, if_pos hcut,
        ih]
      rfl
    · rw [if_neg hx, splitOnP_append_of_forall (hspell.plain (Bool.eq_false_iff.mpr hx)), ih]
      cases xs.splitOnP p <;> rfl

theorem cutFirst?_flatMap (hspell : Spells p q spell) (xs : List α) :
    cutFirst? q (xs.flatMap spell) =
      (cutFirst? p xs).map fun cut => (cut.1.flatMap spell, cut.2.flatMap spell) := by
  induction xs with
  | nil => rfl
  | cons x xs ih =>
    rw [List.flatMap_cons, cutFirst?]
    by_cases hx : p x = true
    · obtain ⟨b, hb, hcut⟩ := hspell.cut hx
      simp [hx, hb, cutFirst?, hcut]
    · rw [if_neg hx, cutFirst?_append_of_forall (hspell.plain (Bool.eq_false_iff.mpr hx)), ih]
      cases cutFirst? p xs <;> rfl

theorem cutLast?_flatMap (hspell : Spells p q spell) (xs : List α) :
    cutLast? q (xs.flatMap spell) =
      (cutLast? p xs).map fun cut => (cut.1.flatMap spell, cut.2.flatMap spell) := by
  induction xs with
  | nil => rfl
  | cons x xs ih =>
    rw [List.flatMap_cons, cutLast?]
    by_cases hx : p x = true
    · obtain ⟨b, hb, hcut⟩ := hspell.cut hx
      rw [hb, List.singleton_append, cutLast?, ih]
      cases cutLast? p xs <;> simp [hx, hb, hcut]
    · rw [cutLast?_append_of_forall (hspell.plain (Bool.eq_false_iff.mpr hx)), ih]
      cases cutLast? p xs <;> simp [hx]

end ComposeLint.Text
