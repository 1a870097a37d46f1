import ComposeLint.Proofs.Cutting
import ComposeLint.Proofs.Substitution
import ComposeLint.Substitution.Units

/-!
# Texts that are spelled from items

A text with substitutions is spelled from items: an escape, a group around other items, or a unit of
its own. Reading such a text exposes exactly the units that are items of their own at the top
(`mark_spelledAll`), however deep groups lie in each other and whatever escapes stand beside braces.
So a separator cuts at the offsets of these items and nowhere else. Characters are read like the
units that spell them (`mark_flatMap_unitValues`), and are cut at the same places.
-/

namespace ComposeLint

open Text (unitValues)

/-! ## Units of characters -/

namespace Text

variable {c d : Char} {u : Nat}

/-- A character that one unit spells is that unit. -/
theorem toNat_of_unitValues (h : unitValues c = [u]) : c.toNat = u ∧ c.toNat < 0x10000 := by
  unfold unitValues at h
  split at h
  · next hc => exact ⟨by simpa using h, hc⟩
  · simp at h

/-- No unit of a character above U+FFFF is a character of its own. -/
theorem half_of_mem_unitValues (hd : ¬ d.toNat < 0x10000) (hu : u ∈ unitValues d) :
    0xD800 ≤ u ∧ u < 0xE000 := by
  have hvalid : d.toNat < 0x110000 := by
    have h := d.valid
    simp only [UInt32.isValidChar, Nat.isValidChar] at h
    change d.val.toNat < _
    omega
  rw [unitValues, if_neg hd, List.mem_cons, List.mem_singleton] at hu
  omega

/-- **A character that one unit spells is in the spelling of no other.** -/
theorem eq_of_mem_unitValues (hc : unitValues c = [u]) (hu : u ∈ unitValues d) : d = c := by
  obtain ⟨rfl, -⟩ := toNat_of_unitValues hc
  by_cases hd : d.toNat < 0x10000
  · rw [unitValues, if_pos hd, List.mem_singleton] at hu
    exact (Char.toNat_inj.mp hu).symm
  · have hhalf := half_of_mem_unitValues hd hu
    have hvalid := c.valid
    simp only [UInt32.isValidChar, Nat.isValidChar] at hvalid
    change 0xD800 ≤ c.val.toNat ∧ c.val.toNat < 0xE000 at hhalf
    omega

/-- What begins with a unit that spells a character begins with that character. -/
theorem exists_cons_of_flatMap_unitValues {cs : List Char} {units : List Nat}
    (hc : unitValues c = [u]) (h : cs.flatMap unitValues = u :: units) :
    ∃ rest, cs = c :: rest ∧ rest.flatMap unitValues = units := by
  cases cs with
  | nil => cases h
  | cons d rest =>
    rw [List.flatMap_cons] at h
    have hhead : u ∈ unitValues d := by
      by_cases hd : d.toNat < 0x10000
      · rw [unitValues, if_pos hd] at h ⊢
        exact List.mem_singleton.mpr (List.cons.inj h).1.symm
      · rw [unitValues, if_neg hd] at h ⊢
        exact List.mem_cons.mpr (.inl (List.cons.inj h).1.symm)
    obtain rfl := eq_of_mem_unitValues hc hhead
    rw [hc, List.singleton_append, List.cons.injEq] at h
    exact ⟨rest, rfl, h.2⟩

end Text

namespace Substitution

open ComposeLint.Substitution.Units (dollar opening closing)

/-! ## Reading characters by their units -/

/-- The units of a marked character, each with its mark. -/
def spelledMark (m : Marked) : List Units.Marked := (unitValues m.1).map (·, m.2)

theorem map_fst_flatMap_spelledMark (ms : List Marked) :
    (ms.flatMap spelledMark).map Prod.fst = (unmark ms).flatMap unitValues := by
  simp [List.map_flatMap, unmark, List.flatMap_map, spelledMark, Function.comp_def]

/-- An ordinary character is read unit by unit. -/
theorem mark_unitValues_append {c : Char} {depth : Nat} {units : List Nat}
    (hnext : c = '$' → ∀ rest, units ≠ dollar :: rest ∧ units ≠ opening :: rest)
    (hdepth : c = '}' → depth = 0) :
    Units.mark depth (unitValues c ++ units) =
      (unitValues c).map (·, depth == 0) ++ Units.mark depth units := by
  by_cases hsmall : c.toNat < 0x10000
  · have hc : unitValues c = [c.toNat] := if_pos hsmall
    rw [hc]
    exact Units.mark_ordinary (fun hu => hnext (Char.toNat_inj.mp hu))
      fun hu => hdepth (Char.toNat_inj.mp hu)
  -- Neither half is a character of its own, so neither has a meaning.
  · have hordinary : ∀ {u rest}, u ∈ unitValues c →
        Units.mark depth (u :: rest) = (u, depth == 0) :: Units.mark depth rest := by
      intro u rest hu
      have hlarge := (Text.half_of_mem_unitValues hsmall hu).1
      refine Units.mark_ordinary (fun h => ?_) fun h => ?_
      · subst h
        exact absurd hlarge (by decide)
      · subst h
        exact absurd hlarge (by decide)
    rw [unitValues, if_neg hsmall] at hordinary ⊢
    rw [List.cons_append, hordinary List.mem_cons_self, List.cons_append,
      hordinary (List.mem_cons_of_mem _ List.mem_cons_self)]
    rfl

/-- **Characters are read like the units that spell them.** -/
theorem mark_flatMap_unitValues (depth : Nat) (cs : List Char) :
    Units.mark depth (cs.flatMap unitValues) = (mark depth cs).flatMap spelledMark := by
  have hdollar : unitValues '$' = [dollar] := rfl
  have hopening : unitValues '{' = [opening] := rfl
  fun_induction mark depth cs with
  | case1 => simp
  | case2 depth rest ih =>
    change Units.mark depth (dollar :: dollar :: rest.flatMap unitValues) = _
    rw [Units.mark_escape, ih]
    rfl
  | case3 depth rest ih =>
    change Units.mark depth (dollar :: opening :: rest.flatMap unitValues) = _
    rw [Units.mark_opening, ih]
    rfl
  | case4 depth rest ih =>
    change Units.mark (depth + 1) (closing :: rest.flatMap unitValues) = _
    rw [Units.mark_closing, ih]
    rfl
  | case5 depth c rest hescape hgroup hbrace ih =>
    have hnext : c = '$' → ∀ units, rest.flatMap unitValues ≠ dollar :: units ∧
        rest.flatMap unitValues ≠ opening :: units := by
      intro hc units
      constructor
      · intro hunits
        obtain ⟨others, hothers, -⟩ := Text.exists_cons_of_flatMap_unitValues hdollar hunits
        exact hescape others hc hothers
      · intro hunits
        obtain ⟨others, hothers, -⟩ := Text.exists_cons_of_flatMap_unitValues hopening hunits
        exact hgroup others hc hothers
    have hdepth : c = '}' → depth = 0 := by
      intro hc
      cases depth with
      | zero => rfl
      | succ n => exact absurd hc (hbrace n rfl)
    rw [List.flatMap_cons, List.flatMap_cons, ← ih]
    exact mark_unitValues_append hnext hdepth

/-! ## Cutting characters by their units -/

section Cuts

variable {c : Char} {sep : Nat}

/-- Where a character cuts, so does the one unit that spells it, and nothing else does. -/
theorem spells_isCut (hc : unitValues c = [sep]) :
    Text.Spells (isCut c) (· == (sep, true)) spelledMark where
  cut {m} hm := by
    simp only [isCut, Bool.and_eq_true, beq_iff_eq] at hm
    obtain ⟨⟨hexposed, hchar⟩, -⟩ := hm
    exact ⟨(sep, true), by rw [spelledMark, hchar, hc, hexposed]; rfl, by simp⟩
  plain {m} hm b hb := by
    obtain ⟨u, hu, rfl⟩ := List.mem_map.mp hb
    rw [beq_eq_false_iff_ne, ne_eq, Prod.mk.injEq, not_and, Bool.not_eq_true]
    rintro rfl
    have hchar := Text.eq_of_mem_unitValues hc hu
    have hone : Text.unitsOf c = 1 := if_pos (Text.toNat_of_unitValues hc).2
    simpa [isCut, hchar, hone] using hm

/-- **Characters are split where their units are.** -/
theorem map_split (hc : unitValues c = [sep]) (cs : List Char) :
    (split c cs).map (·.flatMap unitValues) = Units.split sep (cs.flatMap unitValues) := by
  have hmarks : (fun ms : List Marked => (unmark ms).flatMap unitValues) =
      fun ms => (ms.flatMap spelledMark).map Prod.fst :=
    funext fun ms => (map_fst_flatMap_spelledMark ms).symm
  calc (split c cs).map (·.flatMap unitValues)
      = ((mark 0 cs).splitOnP (isCut c)).map fun ms => (ms.flatMap spelledMark).map Prod.fst := by
        rw [split, parts_eq_splitOnP, List.map_map, ← hmarks]
        rfl
    _ = ((Units.mark 0 (cs.flatMap unitValues)).splitOnP (· == (sep, true))).map
          (List.map Prod.fst) := by
        rw [mark_flatMap_unitValues, Text.splitOnP_flatMap (spells_isCut hc), List.map_map]
        rfl
    _ = Units.split sep (cs.flatMap unitValues) := by
        rw [Text.splitOnP_eq_slices, Text.slices_map, Units.map_fst_mark]
        rfl

/-- The units before and after an offset. -/
def cutAt (units : List Nat) (i : Nat) : List Nat × List Nat :=
  (units.take i, units.drop (i + 1))

/-- A cut of characters, by their units. -/
def spelledCut (cut : List Char × List Char) : List Nat × List Nat :=
  (cut.1.flatMap unitValues, cut.2.flatMap unitValues)

/-- A cut of marked units, without the marks. -/
def unmarkedCut (cut : List Units.Marked × List Units.Marked) : List Nat × List Nat :=
  (cut.1.map Prod.fst, cut.2.map Prod.fst)

theorem unmarkedCut_mark (units : List Nat) (i : Nat) :
    unmarkedCut ((Units.mark 0 units).take i, (Units.mark 0 units).drop (i + 1)) =
      cutAt units i := by
  rw [unmarkedCut, List.map_take, List.map_drop, Units.map_fst_mark]
  rfl

theorem spelledCut_unmark (cut : List Marked × List Marked) :
    spelledCut (unmark cut.1, unmark cut.2) =
      unmarkedCut (cut.1.flatMap spelledMark, cut.2.flatMap spelledMark) := by
  rw [unmarkedCut, map_fst_flatMap_spelledMark, map_fst_flatMap_spelledMark]
  rfl

/-- **The first cut of characters** is at the first offset of their units. -/
theorem map_cutFirst? (hc : unitValues c = [sep]) (cs : List Char) :
    (cutFirst? c cs).map spelledCut =
      (Units.firstPosition? sep (cs.flatMap unitValues)).map (cutAt (cs.flatMap unitValues)) := by
  have hmarks := Text.cutFirst?_flatMap (spells_isCut hc) (mark 0 cs)
  rw [← mark_flatMap_unitValues, Text.cutFirst?_eq_map_head?] at hmarks
  have hunits := congrArg (Option.map unmarkedCut) hmarks
  simp only [Option.map_map, Function.comp_def, unmarkedCut_mark, ← spelledCut_unmark] at hunits
  rw [cutFirst?, Option.map_map]
  exact hunits.symm

/-- **The last cut of characters** is at the last offset of their units. -/
theorem map_cutLast? (hc : unitValues c = [sep]) (cs : List Char) :
    (cutLast? c cs).map spelledCut =
      (Units.lastPosition? sep (cs.flatMap unitValues)).map (cutAt (cs.flatMap unitValues)) := by
  have hmarks := Text.cutLast?_flatMap (spells_isCut hc) (mark 0 cs)
  rw [← mark_flatMap_unitValues, Text.cutLast?_eq_map_getLast?] at hmarks
  have hunits := congrArg (Option.map unmarkedCut) hmarks
  simp only [Option.map_map, Function.comp_def, unmarkedCut_mark, ← spelledCut_unmark] at hunits
  rw [cutLast?, Option.map_map]
  exact hunits.symm

end Cuts

/-! ## Items -/

/-- What a text with substitutions is made of. -/
inductive Item where
  /-- Two dollars. -/
  | escape
  /-- A dollar and a brace, items, and the brace that closes the group. -/
  | group (items : List Item)
  | unit (value : Nat)

namespace Item

mutual

/-- The units of an item. -/
def spelled : Item → List Nat
  | .escape => [dollar, dollar]
  | .group items => dollar :: opening :: (spelledAll items ++ [closing])
  | .unit u => [u]

/-- The units of items, one after the other. -/
def spelledAll : List Item → List Nat
  | [] => []
  | item :: rest => item.spelled ++ spelledAll rest

end

/-- Items that can stand beside each other, at the top or inside a group. No unit of its own is a
dollar, and inside a group none is the brace that closes it. -/
inductive Fit : (isInside : Bool) → List Item → Prop
  | nil {isInside : Bool} : Fit isInside []
  | escape {isInside : Bool} {rest : List Item} : Fit isInside rest → Fit isInside (.escape :: rest)
  | group {isInside : Bool} {items rest : List Item} : Fit true items → Fit isInside rest →
      Fit isInside (.group items :: rest)
  | unit {isInside : Bool} {u : Nat} {rest : List Item} : u ≠ dollar →
      (isInside = true → u ≠ closing) → Fit isInside rest → Fit isInside (.unit u :: rest)

/-- The offsets of the items that are the unit `sep`, when the first item is at `start`. Items of a
group are not looked at. -/
def offsets (sep start : Nat) : List Item → List Nat
  | [] => []
  | .unit u :: rest =>
    if u = sep then start :: offsets sep (start + 1) rest else offsets sep (start + 1) rest
  | item :: rest => offsets sep (start + item.spelled.length) rest

/-- The units of an item, of which one that is an item of its own is marked as told. -/
def marks (isExposed : Bool) : Item → List Units.Marked
  | .unit u => [(u, isExposed)]
  | item => item.spelled.map (·, false)

variable {sep : Nat} {items : List Item}

theorem flatMap_marks_false (items : List Item) :
    items.flatMap (marks false) = (spelledAll items).map (·, false) := by
  induction items with
  | nil => rfl
  | cons item rest ih =>
    rw [List.flatMap_cons, ih, spelledAll, List.map_append]
    cases item <;> rfl

/-- **Reading items** exposes the units that are items of their own, outside all groups. What
follows is read as if it stood alone. -/
theorem mark_spelledAll {isInside : Bool} (h : Fit isInside items) :
    ∀ depth : Nat, (isInside = false → depth = 0) → ∀ rest : List Nat,
      Units.mark depth (spelledAll items ++ rest) =
        items.flatMap (marks (depth == 0)) ++ Units.mark depth rest := by
  -- On how the items fit. A group is read one level deeper, so the depth is arbitrary.
  induction h with
  | nil => intro depth _ rest; rfl
  | escape _ ih =>
    intro depth hdepth rest
    have hread := ih depth hdepth rest
    simp only [spelledAll, spelled, List.cons_append, List.nil_append, Units.mark_escape, hread]
    rfl
  | @group isInside inner others _ _ ihinner ih =>
    intro depth hdepth rest
    have hinner := ihinner (depth + 1) (fun h => by cases h)
      (closing :: (spelledAll others ++ rest))
    have hinside : (depth + 1 == 0) = false := rfl
    rw [hinside, flatMap_marks_false, Units.mark_closing, ih depth hdepth rest] at hinner
    simp only [spelledAll, spelled, List.cons_append, List.append_assoc, List.nil_append,
      Units.mark_opening, hinner]
    simp [marks, spelled]
  | @unit isInside u others hdollar hclosing _ ih =>
    intro depth hdepth rest
    have hbrace : u = closing → depth = 0 := fun hu => by
      cases isInside with
      | false => exact hdepth rfl
      | true => exact absurd hu (hclosing rfl)
    simp only [spelledAll, spelled, List.cons_append, List.nil_append]
    rw [Units.mark_ordinary (fun hu => absurd hu hdollar) hbrace, ih depth hdepth rest]
    rfl

/-- The exposed separators are at the offsets of the items that are separators. -/
theorem positions_flatMap_marks (sep : Nat) (items : List Item) (start : Nat) :
    Text.positions (· == (sep, true)) start (items.flatMap (marks true)) =
      offsets sep start items := by
  induction items generalizing start with
  | nil => rfl
  | cons item rest ih =>
    have hhidden : ∀ units : List Nat, ∀ m ∈ units.map (fun u => (u, false)),
        (m == (sep, true)) = false := by
      intro units m hm
      obtain ⟨u, -, rfl⟩ := List.mem_map.mp hm
      simp
    rw [List.flatMap_cons, Text.positions_append, ih]
    cases item with
    | escape =>
      simp only [marks, Text.positions_eq_nil (hhidden _), List.nil_append, List.length_map]
      rfl
    | group inner =>
      simp only [marks, Text.positions_eq_nil (hhidden _), List.nil_append, List.length_map]
      rfl
    | unit u =>
      by_cases hu : u = sep
      · simp [marks, Text.positions, offsets, hu]
      · simp [marks, Text.positions, offsets, hu]

theorem positions_spelledAll (h : Fit false items) (sep : Nat) :
    Units.positions sep (spelledAll items) = offsets sep 0 items := by
  have hmark := mark_spelledAll h 0 (fun _ => rfl) []
  rw [List.append_nil, Units.mark_nil, List.append_nil] at hmark
  rw [Units.positions, hmark]
  exact positions_flatMap_marks sep items 0

/-- **A separator cuts exactly at the items that it is.** Of the units that items spell, the ones
that are split at, the first one and the last one are those at the offsets of the items of their own
at the top that are the separator. Characters that these units spell are cut at the same places by
the character that the separator spells. -/
theorem cuts_spelledAll (h : Fit false items) (sep : Nat) :
    Units.positions sep (spelledAll items) = offsets sep 0 items ∧
    Units.split sep (spelledAll items) =
      Text.slices 0 (offsets sep 0 items) (spelledAll items) ∧
    Units.firstPosition? sep (spelledAll items) = (offsets sep 0 items).head? ∧
    Units.lastPosition? sep (spelledAll items) = (offsets sep 0 items).getLast? ∧
    ∀ (c : Char) (cs : List Char), unitValues c = [sep] → cs.flatMap unitValues = spelledAll items →
      (split c cs).map (·.flatMap unitValues) =
        Text.slices 0 (offsets sep 0 items) (spelledAll items) ∧
      (cutFirst? c cs).map spelledCut =
        (offsets sep 0 items).head?.map (cutAt (spelledAll items)) ∧
      (cutLast? c cs).map spelledCut =
        (offsets sep 0 items).getLast?.map (cutAt (spelledAll items)) := by
  have hpositions := positions_spelledAll h sep
  refine ⟨hpositions, ?_, ?_, ?_, fun c cs hc hcs => ⟨?_, ?_, ?_⟩⟩
  · rw [Units.split, hpositions]
  · rw [Units.firstPosition?, hpositions]
  · rw [Units.lastPosition?, hpositions]
  · rw [map_split hc, hcs, Units.split, hpositions]
  · rw [map_cutFirst? hc, hcs, Units.firstPosition?, hpositions]
  · rw [map_cutLast? hc, hcs, Units.lastPosition?, hpositions]

/-- The items of `a:${:${:}$$}:$$}:b`, in which colons stand at the top, in a group, and in a group
of that group, and escapes stand before braces. -/
def nestedItems : List Item :=
  [.unit 0x61, .unit 0x3A,
    .group [.unit 0x3A, .group [.unit 0x3A], .escape],
    .unit 0x3A, .escape, .unit closing, .unit 0x3A, .unit 0x62]

theorem cuts_nestedItems :
    Fit false nestedItems ∧ Units.positions 0x3A (spelledAll nestedItems) = [1, 12, 16] ∧
      (split ':' "a:$\x7b:$\x7b:\x7d$$\x7d:$$\x7d:b".toList).map (·.flatMap unitValues) =
        Text.slices 0 [1, 12, 16] (spelledAll nestedItems) := by
  have hfit : Fit false nestedItems := by
    repeat' constructor
    all_goals decide
  obtain ⟨hpositions, -, -, -, hchars⟩ := cuts_spelledAll hfit 0x3A
  exact ⟨hfit, hpositions, (hchars ':' _ rfl rfl).1⟩

end Item

end Substitution

end ComposeLint
