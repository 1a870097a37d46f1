import ComposeLint.Proofs.Spelling

/-!
# Splitting is exhaustive

Whatever a text holds, be it unclosed groups, stray braces or a dollar at its end, and whatever the
separator is, splitting loses nothing and leaves nothing to split (`Exhausts`), and the first and
the last cut lie behind the first part and before the last one (`EndOffsets`, `EndCuts`). A part is
read on its own as it is read in the text, because reading is at its start again behind every
exposed unit (`Units.mark_of_append`); so a separator that cuts a part would have cut the text.
-/

namespace ComposeLint

open Text (unitValues)

/-! ## Cuts and parts of a list -/

namespace Text

variable {α : Type} {p : α → Bool} {xs part : List α} {cut : List α × List α}

/-- **What the first cut says**: there is something to cut at, and nothing before it. -/
theorem cutFirst?_eq_some_iff : cutFirst? p xs = some cut ↔
    ∃ x, xs = cut.1 ++ x :: cut.2 ∧ p x = true ∧ ∀ y ∈ cut.1, p y = false := by
  constructor
  · intro h
    induction xs generalizing cut with
    | nil => cases h
    | cons x xs ih =>
      rw [cutFirst?] at h
      split at h
      · next hx =>
        cases h
        exact ⟨x, rfl, hx, by simp⟩
      · next hx =>
        obtain ⟨cut, hcut, rfl⟩ := Option.map_eq_some_iff.mp h
        obtain ⟨y, rfl, hy, hbefore⟩ := ih hcut
        exact ⟨y, rfl, hy, List.forall_mem_cons.mpr ⟨Bool.eq_false_iff.mpr hx, hbefore⟩⟩
  · rintro ⟨x, rfl, hx, hbefore⟩
    rw [cutFirst?_append_of_forall hbefore, cutFirst?, if_pos hx]
    simp

theorem cutFirst?_eq_none_iff : cutFirst? p xs = none ↔ ∀ x ∈ xs, p x = false := by
  refine ⟨fun h => ?_, cutFirst?_eq_none⟩
  induction xs with
  | nil => simp
  | cons x xs ih =>
    rw [cutFirst?] at h
    split at h
    · cases h
    · next hx =>
      exact List.forall_mem_cons.mpr
        ⟨Bool.eq_false_iff.mpr hx, ih (Option.map_eq_none_iff.mp h)⟩

theorem cutLast?_eq_none_iff : cutLast? p xs = none ↔ ∀ x ∈ xs, p x = false := by
  refine ⟨fun h => ?_, cutLast?_eq_none⟩
  induction xs with
  | nil => simp
  | cons x xs ih =>
    rw [cutLast?] at h
    split at h
    · cases h
    · next hrest =>
      split at h
      · cases h
      · next hx => exact List.forall_mem_cons.mpr ⟨Bool.eq_false_iff.mpr hx, ih hrest⟩

/-- **What the last cut says**: there is something to cut at, and nothing behind it. -/
theorem cutLast?_eq_some_iff : cutLast? p xs = some cut ↔
    ∃ x, xs = cut.1 ++ x :: cut.2 ∧ p x = true ∧ ∀ y ∈ cut.2, p y = false := by
  constructor
  · intro h
    induction xs generalizing cut with
    | nil => cases h
    | cons x xs ih =>
      rw [cutLast?] at h
      split at h
      · next rest hrest =>
        cases h
        obtain ⟨y, rfl, hy, hafter⟩ := ih hrest
        exact ⟨y, rfl, hy, hafter⟩
      · next hrest =>
        split at h
        · next hx =>
          cases h
          exact ⟨x, rfl, hx, cutLast?_eq_none_iff.mp hrest⟩
        · cases h
  · rintro ⟨x, rfl, hx, hafter⟩
    exact Substitution.cutLast?_append hx hafter cut.1

/-- The part before the first cut is the first part. -/
theorem splitOnP_of_cutFirst? (h : cutFirst? p xs = some cut) :
    xs.splitOnP p = cut.1 :: cut.2.splitOnP p := by
  obtain ⟨x, rfl, hx, hbefore⟩ := cutFirst?_eq_some_iff.mp h
  rw [List.splitOnP_append_cons _ _ hx, List.splitOnP_eq_singleton hbefore, List.singleton_append]

/-- The part behind the last cut is the last part. -/
theorem splitOnP_of_cutLast? (h : cutLast? p xs = some cut) :
    xs.splitOnP p = cut.1.splitOnP p ++ [cut.2] := by
  obtain ⟨x, rfl, hx, hafter⟩ := cutLast?_eq_some_iff.mp h
  rw [List.splitOnP_append_cons _ _ hx, List.splitOnP_eq_singleton hafter]

/-- **A list is one part, or it is cut at both ends.** -/
theorem splitOnP_cases (p : α → Bool) (xs : List α) :
    (xs.splitOnP p = [xs] ∧ cutFirst? p xs = none ∧ cutLast? p xs = none) ∨
    ∃ first between last before after, xs.splitOnP p = first :: (between ++ [last]) ∧
      (cutFirst? p xs = some (first, after) ∧ after.splitOnP p = between ++ [last]) ∧
      cutLast? p xs = some (before, last) ∧ before.splitOnP p = first :: between := by
  cases hfirst : cutFirst? p xs with
  | none =>
    have hplain := cutFirst?_eq_none_iff.mp hfirst
    exact .inl ⟨List.splitOnP_eq_singleton hplain, rfl, cutLast?_eq_none hplain⟩
  | some cut =>
    obtain ⟨first, after⟩ := cut
    obtain ⟨⟨before, last⟩, hlast⟩ : ∃ cut, cutLast? p xs = some cut := by
      refine Option.ne_none_iff_exists'.mp fun hnone => ?_
      rw [cutFirst?_eq_none (cutLast?_eq_none_iff.mp hnone)] at hfirst
      cases hfirst
    -- Both cuts leave parts, and together with the one cut off these are the parts of the list.
    have hparts := (splitOnP_of_cutFirst? hfirst).symm.trans (splitOnP_of_cutLast? hlast)
    obtain ⟨hnil, -⟩ | ⟨between, hbefore, hafter⟩ := List.cons_eq_append_iff.mp hparts
    · exact absurd hnil (List.splitOnP_ne_nil _ _)
    · refine .inr ⟨first, between, last, before, after, ?_, ⟨rfl, hafter⟩, hlast, hbefore⟩
      rw [splitOnP_of_cutFirst? hfirst, hafter]

/-- No part has anything to cut at. -/
theorem eq_false_of_mem_splitOnP (h : part ∈ xs.splitOnP p) : ∀ x ∈ part, p x = false := by
  induction xs generalizing part with
  | nil =>
    rw [List.splitOnP_nil, List.mem_singleton] at h
    simp [h]
  | cons x xs ih =>
    rw [List.splitOnP_cons_eq_if_modifyHead] at h
    obtain ⟨head, others, hparts⟩ := List.exists_cons_of_ne_nil (List.splitOnP_ne_nil p xs)
    rw [hparts] at h ih
    split at h
    · obtain rfl | hmem := List.mem_cons.mp h
      · simp
      · exact ih hmem
    · next hx =>
      obtain rfl | hmem := List.mem_cons.mp h
      · exact List.forall_mem_cons.mpr ⟨Bool.eq_false_iff.mpr hx, ih List.mem_cons_self⟩
      · exact ih (List.mem_cons_of_mem _ hmem)

theorem modifyHead_nil_append (parts : List (List α)) : parts.modifyHead ([] ++ ·) = parts := by
  cases parts <;> rfl

/-- **What passes on to both sides of a cut holds of every part.** -/
theorem forall_mem_splitOnP {P : List α → Prop}
    (hcut : ∀ {before x after}, p x = true → P (before ++ x :: after) → P before ∧ P after)
    (h : P xs) : ∀ part ∈ xs.splitOnP p, P part := by
  -- What stands before the next cut is kept in front until the cut is reached.
  have key : ∀ (xs before : List α), P (before ++ xs) →
      ∀ part ∈ (xs.splitOnP p).modifyHead (before ++ ·), P part := by
    intro xs
    induction xs with
    | nil => simp
    | cons x xs ih =>
      intro before h
      rw [List.splitOnP_cons_eq_if_modifyHead]
      split
      · next hx =>
        obtain ⟨hbefore, hafter⟩ := hcut hx h
        have hrest := ih [] hafter
        rw [modifyHead_nil_append] at hrest
        rw [List.modifyHead_cons, List.append_nil]
        exact List.forall_mem_cons.mpr ⟨hbefore, hrest⟩
      · have hrest := ih (before ++ [x]) (by simpa using h)
        rw [List.modifyHead_modifyHead]
        simpa [Function.comp_def] using hrest
  have hall := key xs [] h
  rwa [modifyHead_nil_append] at hall

/-- Texts that are joined are joined in two parts. -/
theorem intercalate_append_cons (sep : α) {before : List (List α)} (h : before ≠ [])
    (text : List α) (after : List (List α)) :
    [sep].intercalate (before ++ text :: after) =
      [sep].intercalate before ++ sep :: [sep].intercalate (text :: after) := by
  induction before with
  | nil => exact absurd rfl h
  | cons first rest ih =>
    cases rest with
    | nil => simp [List.intercalate_cons_cons]
    | cons second others =>
      rw [List.cons_append, List.cons_append, List.intercalate_cons_cons, ← List.cons_append,
        ih (List.cons_ne_nil _ _), List.intercalate_cons_cons]
      simp

theorem map_intercalate {β : Type} (f : α → β) (sep : List α) (parts : List (List α)) :
    (sep.intercalate parts).map f = (sep.map f).intercalate (parts.map (List.map f)) := by
  induction parts with
  | nil => rfl
  | cons part parts ih =>
    cases parts with
    | nil => simp
    | cons next parts =>
      rw [List.intercalate_cons_cons, List.map_append, List.map_append, ih]
      exact List.intercalate_cons_cons.symm

/-! ## Positions -/

/-- The first position is the length of what stands before the first cut. -/
theorem head?_positions (p : α → Bool) (xs : List α) :
    (positions p 0 xs).head? = (cutFirst? p xs).map (·.1.length) := by
  cases hcut : cutFirst? p xs with
  | none => rw [positions_eq_nil (cutFirst?_eq_none_iff.mp hcut)]; rfl
  | some cut =>
    obtain ⟨x, rfl, hx, hbefore⟩ := cutFirst?_eq_some_iff.mp hcut
    simp [positions_append, positions_eq_nil hbefore, positions, hx]

/-- The last position is the length of what stands before the last cut. -/
theorem getLast?_positions (p : α → Bool) (xs : List α) :
    (positions p 0 xs).getLast? = (cutLast? p xs).map (·.1.length) := by
  cases hcut : cutLast? p xs with
  | none => rw [positions_eq_nil (cutLast?_eq_none_iff.mp hcut)]; rfl
  | some cut =>
    obtain ⟨x, rfl, hx, hafter⟩ := cutLast?_eq_some_iff.mp hcut
    simp [positions_append, positions_eq_nil hafter, positions, hx]

end Text

namespace Substitution

/-! ## Reading the parts -/

/-- Splitting a text loses nothing: its parts joined by the separator are the text. And it leaves
nothing to split: each of its parts is a part of its own. -/
structure Exhausts {α : Type} (sep : α) (split : List α → List (List α)) (text : List α) :
    Prop where
  joined : [sep].intercalate (split text) = text
  whole : ∀ part ∈ split text, split part = [part]

namespace Units

variable {depth u sep : Nat} {units part : List Nat} {before after : List Marked}

/-- A hidden unit stands before an exposed one. -/
theorem exists_cons_of_hidden {v : Nat} {ms : List Marked}
    (h : (v, false) :: ms = before ++ (u, true) :: after) :
    ∃ others, before = (v, false) :: others ∧ ms = others ++ (u, true) :: after := by
  cases before with
  | nil => cases h
  | cons first others =>
    obtain ⟨rfl, hrest⟩ := List.cons.inj h
    exact ⟨others, rfl, hrest⟩

/-- **Reading is at its start behind an exposed unit**, and what stands before it is read without it
as it is read with it. -/
theorem mark_of_append (h : mark depth units = before ++ (u, true) :: after) :
    mark depth (before.map Prod.fst) = before ∧ mark 0 (after.map Prod.fst) = after := by
  fun_induction mark depth units generalizing before with
  | case1 => simp at h
  | case2 depth rest ih =>
    obtain ⟨others, rfl, hothers⟩ := exists_cons_of_hidden h
    obtain ⟨before, rfl, hrest⟩ := exists_cons_of_hidden hothers
    exact ⟨by simp [(ih hrest).1], (ih hrest).2⟩
  | case3 depth rest ih =>
    obtain ⟨others, rfl, hothers⟩ := exists_cons_of_hidden h
    obtain ⟨before, rfl, hrest⟩ := exists_cons_of_hidden hothers
    exact ⟨by simp [(ih hrest).1], (ih hrest).2⟩
  | case4 depth rest ih =>
    obtain ⟨before, rfl, hrest⟩ := exists_cons_of_hidden h
    exact ⟨by simp [(ih hrest).1], (ih hrest).2⟩
  | case5 depth v rest hescape hgroup hbrace ih =>
    cases before with
    | nil =>
      obtain ⟨hfirst, rfl⟩ := List.cons.inj h
      obtain rfl : depth = 0 := by simpa using congrArg Prod.snd hfirst
      exact ⟨mark_nil, by rw [map_fst_mark]⟩
    | cons first before =>
      rw [List.cons_append] at h
      obtain ⟨rfl, hrest⟩ := List.cons.inj h
      obtain ⟨hbefore, hafter⟩ := ih hrest
      -- A dollar that is no syntax in the text has no more behind it in the part.
      have hunits : rest = before.map Prod.fst ++ u :: after.map Prod.fst := by
        rw [← map_fst_mark depth rest, hrest, List.map_append, List.map_cons]
      have hnext : v = dollar → ∀ others, before.map Prod.fst ≠ dollar :: others ∧
          before.map Prod.fst ≠ opening :: others := by
        refine fun hv others => ⟨fun heq => ?_, fun heq => ?_⟩
        · exact hescape _ hv (hunits.trans (congrArg (· ++ _) heq))
        · exact hgroup _ hv (hunits.trans (congrArg (· ++ _) heq))
      have hdepth : v = closing → depth = 0 := fun hv => by
        cases depth with
        | zero => rfl
        | succ n => exact absurd hv (hbrace n rfl)
      exact ⟨by rw [List.map_cons, mark_ordinary hnext hdepth, hbefore], hafter⟩

/-- The parts are those of the library, without the marks. -/
theorem split_eq_map_splitOnP (sep : Nat) (units : List Nat) :
    split sep units = ((mark 0 units).splitOnP (· == (sep, true))).map (List.map Prod.fst) := by
  rw [Text.splitOnP_eq_slices, Text.slices_map, map_fst_mark]
  rfl

/-- A part is read on its own as it is read in the text. -/
theorem mark_of_mem_splitOnP {ms : List Marked}
    (h : ms ∈ (mark 0 units).splitOnP (· == (sep, true))) : mark 0 (ms.map Prod.fst) = ms := by
  refine Text.forall_mem_splitOnP (P := fun ms => mark 0 (ms.map Prod.fst) = ms)
    (fun {before x after} hx hmarks => ?_) (by rw [map_fst_mark]) ms h
  obtain rfl := eq_of_beq hx
  exact mark_of_append hmarks

/-- **Splitting units is exhaustive.** -/
theorem exhausts_split (sep : Nat) (units : List Nat) : Exhausts sep (split sep) units where
  joined := by
    have hmarks : [(sep, true)].intercalate ((mark 0 units).splitOn (sep, true)) = mark 0 units :=
      List.intercalate_splitOn _
    have hunits := congrArg (List.map Prod.fst) hmarks
    rwa [Text.map_intercalate, map_fst_mark, List.splitOn_eq_splitOnP,
      ← split_eq_map_splitOnP] at hunits
  whole part hpart := by
    rw [split_eq_map_splitOnP] at hpart
    obtain ⟨ms, hms, rfl⟩ := List.mem_map.mp hpart
    rw [split_eq_map_splitOnP, mark_of_mem_splitOnP hms,
      List.splitOnP_eq_singleton (Text.eq_false_of_mem_splitOnP hms), List.map_singleton]

/-- Where the first and the last cut of a text of some length lie, by its parts: nowhere if there is
one part, and else behind the first part and before the last one. -/
inductive EndOffsets (length : Nat) : List (List Nat) → Option Nat → Option Nat → Prop
  | whole {part : List Nat} : EndOffsets length [part] none none
  | ends {first last : List Nat} {between : List (List Nat)} {offset : Nat} :
      offset + 1 + last.length = length →
        EndOffsets length (first :: (between ++ [last])) (some first.length) (some offset)

/-- **The offsets of the first and the last cut** are those that the parts leave. -/
theorem endOffsets_split (sep : Nat) (units : List Nat) :
    EndOffsets units.length (split sep units) (firstPosition? sep units)
      (lastPosition? sep units) := by
  rw [split_eq_map_splitOnP, firstPosition?, lastPosition?, positions, Text.head?_positions,
    Text.getLast?_positions]
  obtain ⟨hparts, hfirst, hlast⟩ | ⟨first, between, last, before, after, hparts, ⟨hfirst, -⟩,
    hlast, -⟩ := Text.splitOnP_cases (· == (sep, true)) (mark 0 units)
  · rw [hparts, hfirst, hlast]
    exact .whole
  · obtain ⟨m, hmarks, -⟩ := Text.cutLast?_eq_some_iff.mp hlast
    have hlength : before.length + 1 + (last.map Prod.fst).length = units.length := by
      rw [← map_fst_mark 0 units, hmarks]
      simp
      omega
    have hends : EndOffsets units.length
        (first.map Prod.fst :: (between.map (List.map Prod.fst) ++ [last.map Prod.fst]))
        (some (first.map Prod.fst).length) (some before.length) := .ends hlength
    rw [List.length_map] at hends
    rwa [hparts, hfirst, hlast, List.map_cons, List.map_append]

end Units

/-! ## Texts of characters -/

section Chars

variable {c : Char} {cs part : List Char} {sep : Nat}

/-- A character of two units cuts nowhere. -/
theorem uncut_of_unitsOf (h : Text.unitsOf c ≠ 1) : Uncut c cs := fun m _ => by simp [isCut, h]

/-- **Splitting characters is exhaustive.** -/
theorem exhausts_split (c : Char) (cs : List Char) : Exhausts c (split c) cs where
  joined := intercalate_split c cs
  whole part hpart := by
    by_cases hone : Text.unitsOf c = 1
    · have hc : unitValues c = [c.toNat] := by
        rw [Text.unitsOf] at hone
        rw [unitValues]
        split at hone
        · next hsmall => rw [if_pos hsmall]
        · cases hone
      -- The units of a part are a part of the units, and so they are one part.
      have hunits : part.flatMap unitValues ∈ Units.split c.toNat (cs.flatMap unitValues) := by
        rw [← map_split hc]
        exact List.mem_map_of_mem hpart
      have hlength := congrArg List.length ((map_split hc part).trans
        ((Units.exhausts_split c.toNat _).whole _ hunits))
      rw [List.length_map, List.length_singleton] at hlength
      obtain ⟨whole, hwhole⟩ := List.length_eq_one_iff.mp hlength
      have hjoined := intercalate_split c part
      rw [hwhole, List.intercalate_singleton] at hjoined
      rw [hwhole, hjoined]
    · rw [split_of_uncut (uncut_of_unitsOf hone), List.mem_singleton] at hpart
      rw [hpart, split_of_uncut (uncut_of_unitsOf hone)]

/-- How a text is cut at its first and at its last separator, by its parts: not at all if there is
one part, and else behind the first part and before the last one. -/
inductive EndCuts (sep : Char) : List (List Char) →
    Option (List Char × List Char) → Option (List Char × List Char) → Prop
  | whole {part : List Char} : EndCuts sep [part] none none
  | ends {first last : List Char} {between : List (List Char)} :
      EndCuts sep (first :: (between ++ [last]))
        (some (first, [sep].intercalate (between ++ [last])))
        (some ([sep].intercalate (first :: between), last))

/-- **The first and the last cut** leave the parts on their sides. -/
theorem endCuts_split (c : Char) (cs : List Char) :
    EndCuts c (split c cs) (cutFirst? c cs) (cutLast? c cs) := by
  have hjoin : ∀ {ms : List Marked} {parts : List (List Marked)}, ms.splitOnP (isCut c) = parts →
      unmark ms = [c].intercalate (parts.map unmark) := by
    rintro ms _ rfl
    rw [← parts_eq_splitOnP, intercalate_parts]
  rw [split, parts_eq_splitOnP, cutFirst?, cutLast?]
  obtain ⟨hparts, hfirst, hlast⟩ | ⟨first, between, last, before, after, hparts, ⟨hfirst, hafter⟩,
    hlast, hbefore⟩ := Text.splitOnP_cases (isCut c) (mark 0 cs)
  · rw [hparts, hfirst, hlast]
    exact .whole
  · rw [hparts, hfirst, hlast, Option.map_some, Option.map_some, hjoin hafter, hjoin hbefore,
      List.map_cons, List.map_append]
    exact .ends

end Chars

/-- **Splitting loses nothing and is exhaustive**, whatever the text and the separator are. The
parts of units joined by the separator are the units, and none of them is split again. The first
and the last offset are there unless there is one part, the one behind the first part and the other
before the last. The same holds of characters. -/
theorem split_exhaustive (sep : Nat) (units : List Nat) (c : Char) (cs : List Char) :
    Exhausts sep (Units.split sep) units ∧
    Units.EndOffsets units.length (Units.split sep units) (Units.firstPosition? sep units)
      (Units.lastPosition? sep units) ∧
    Exhausts c (split c) cs ∧
    EndCuts c (split c cs) (cutFirst? c cs) (cutLast? c cs) :=
  ⟨Units.exhausts_split sep units, Units.endOffsets_split sep units, exhausts_split c cs,
    endCuts_split c cs⟩

/-- A dollar may split a text in which dollars are escapes. -/
example : split '$' "$$$a$$".toList = ["$$".toList, "a$$".toList] := by decide

end Substitution

end ComposeLint
