import ComposeLint.Proofs.Spelling
import Mathlib.Data.List.TakeWhile

/-!
# Seams of a text

Behind a seam, the rest of a text is cut as if it stood alone. A text has a seam at its end exactly
if it closes every group that it opens and does not end in a dollar that is no part of an escape: a
group that is still open hides what follows, and the dollar begins an escape or a group with it.
`Closed` says what it is to close every group, and `mark_append_of_closed` that nothing but such a
dollar is left of the reading of a closed text. At a seam a group can be put in or taken out, and
the separators around it are the same as before (`positions_append_iff_and_insert`).
-/

namespace ComposeLint

namespace Substitution.Units

variable {isInside : Bool} {depth u sep : Nat} {units rest before after body : List Nat}

/-! ## Texts that close their groups -/

/-- The group around some units. -/
def group (body : List Nat) : List Nat := dollar :: opening :: (body ++ [closing])

/-- Whether what stands behind a dollar leaves it without a meaning. -/
def BeginsNothing (rest : List Nat) : Prop := ∀ u ∈ rest.head?, u ≠ dollar ∧ u ≠ opening

/-- Units that close every group that they open, outside of all groups or inside of one. -/
inductive Closed : (isInside : Bool) → List Nat → Prop
  | nil {isInside : Bool} : Closed isInside []
  /-- An escape hides its second dollar from the brace after it. -/
  | escape {isInside : Bool} {rest : List Nat} : Closed isInside rest →
      Closed isInside (dollar :: dollar :: rest)
  | group {isInside : Bool} {body rest : List Nat} : Closed true body → Closed isInside rest →
      Closed isInside (group body ++ rest)
  /-- A dollar that begins nothing. -/
  | dollar {isInside : Bool} {rest : List Nat} : BeginsNothing rest → Closed isInside rest →
      Closed isInside (dollar :: rest)
  /-- A closing brace is an ordinary unit only outside of all groups. -/
  | unit {isInside : Bool} {u : Nat} {rest : List Nat} : u ≠ dollar →
      (isInside = true → u ≠ closing) → Closed isInside rest → Closed isInside (u :: rest)

theorem mark_dollar_cons (h : BeginsNothing rest) :
    mark depth (dollar :: rest) = (dollar, depth == 0) :: mark depth rest := by
  refine mark_ordinary (fun _ others => ⟨?_, ?_⟩) fun h => absurd h (by decide)
  · rintro rfl
    exact (h _ rfl).1 rfl
  · rintro rfl
    exact (h _ rfl).2 rfl

/-- A unit that is neither a dollar nor closes a group is ordinary. -/
theorem mark_unit_cons (hdollar : u ≠ dollar) (hclosing : isInside = true → u ≠ closing)
    (hdepth : isInside = false → depth = 0) (rest : List Nat) :
    mark depth (u :: rest) = (u, depth == 0) :: mark depth rest := by
  refine mark_ordinary (fun h => absurd h hdollar) fun hu => ?_
  cases isInside with
  | false => exact hdepth rfl
  | true => exact absurd hu (hclosing rfl)

theorem BeginsNothing.append (h : BeginsNothing units)
    (hrest : units = [] → BeginsNothing rest) : BeginsNothing (units ++ rest) := by
  cases units with
  | nil => exact hrest rfl
  | cons u units => exact h

/-- A brace that closes a group has no meaning for a dollar before it. -/
theorem beginsNothing_closing (rest : List Nat) : BeginsNothing (closing :: rest) := by
  intro u hu
  cases hu
  decide

/-! ## Dollars at the end -/

/-- The number of dollars that a text ends in. -/
def endingDollars (units : List Nat) : Nat := (units.reverse.takeWhile (· == dollar)).length

/-- Whether a text ends in a dollar that is no part of an escape. Escapes take the dollars of a run
in pairs, so one is left of an odd number. -/
def EndsInDollar (units : List Nat) : Prop := endingDollars units % 2 = 1

instance (units : List Nat) : Decidable (EndsInDollar units) :=
  inferInstanceAs (Decidable (_ = _))

/-- Only what stands behind the last other unit counts. -/
theorem endingDollars_append_cons (hu : u ≠ dollar) (before units : List Nat) :
    endingDollars (before ++ u :: units) = endingDollars units := by
  rw [endingDollars,
    Text.takeWhile_reverse_append_cons (p := (· == dollar)) (beq_eq_false_iff_ne.mpr hu),
    endingDollars]

theorem endingDollars_of_forall (h : ∀ u ∈ units, u = dollar) :
    endingDollars units = units.length := by
  have hall : units.reverse.takeWhile (· == dollar) = units.reverse :=
    List.takeWhile_eq_self_iff.mpr fun u hu => beq_iff_eq.mpr (h u (List.mem_reverse.mp hu))
  rw [endingDollars, hall, List.length_reverse]

theorem endsInDollar_cons (hu : u ≠ dollar) : EndsInDollar (u :: units) ↔ EndsInDollar units := by
  have hcount := endingDollars_append_cons hu [] units
  rw [List.nil_append] at hcount
  rw [EndsInDollar, hcount, EndsInDollar]

theorem endsInDollar_group_append : EndsInDollar (group body ++ units) ↔ EndsInDollar units := by
  have hcount : endingDollars (group body ++ units) = endingDollars units := by
    have hclosing := endingDollars_append_cons (u := closing) (by decide)
      (dollar :: opening :: body) units
    simpa [group] using hclosing
  rw [EndsInDollar, hcount, EndsInDollar]

theorem endsInDollar_escape :
    EndsInDollar (dollar :: dollar :: units) ↔ EndsInDollar units := by
  by_cases h : ∀ u ∈ units, u = dollar
  · rw [EndsInDollar, EndsInDollar, endingDollars_of_forall h,
      endingDollars_of_forall (by simpa using h), List.length_cons, List.length_cons]
    omega
  · simp only [not_forall] at h
    obtain ⟨u, hmem, hu⟩ := h
    obtain ⟨before, after, rfl⟩ := List.append_of_mem hmem
    have hcount := endingDollars_append_cons hu (dollar :: dollar :: before) after
    rw [List.cons_append, List.cons_append] at hcount
    rw [EndsInDollar, EndsInDollar, hcount, endingDollars_append_cons hu]

theorem endsInDollar_dollar_cons (hnext : BeginsNothing units) :
    EndsInDollar (dollar :: units) ↔ units = [] ∨ EndsInDollar units := by
  cases units with
  | nil => simp [EndsInDollar, endingDollars]
  | cons u units =>
    obtain ⟨hu, -⟩ := hnext u rfl
    have hcount := endingDollars_append_cons hu [dollar] units
    rw [List.singleton_append] at hcount
    rw [endsInDollar_cons hu, EndsInDollar, hcount, EndsInDollar]
    simp

/-! ## What is left of a reading -/

/-- **What stands behind a text that closes its groups is read as if it stood alone**, unless a
dollar at the end of the text begins something with it. -/
theorem mark_append_of_closed (h : Closed isInside units) :
    ∀ depth : Nat, (isInside = false → depth = 0) →
      ∀ rest : List Nat, (EndsInDollar units → BeginsNothing rest) →
        mark depth (units ++ rest) = mark depth units ++ mark depth rest := by
  -- On how the units close. A group is read one level deeper, so the depth is arbitrary.
  induction h with
  | nil => intro depth _ rest _; simp
  | escape _ ih =>
    intro depth hdepth rest hend
    have hread := ih depth hdepth rest fun h => hend (endsInDollar_escape.mpr h)
    simp only [List.cons_append, mark_escape, hread]
  | @group isInside inner others _ _ ihinner ih =>
    intro depth hdepth rest hend
    have hgroup : ∀ rest, mark depth (group inner ++ rest) =
        (dollar, false) :: (opening, false) :: mark (depth + 1) inner ++
          (closing, false) :: mark depth rest := by
      intro rest
      have hinner := ihinner (depth + 1) (fun h => by cases h) (closing :: rest)
        fun _ => beginsNothing_closing rest
      rw [mark_closing] at hinner
      simp only [group, List.cons_append, List.append_assoc, List.nil_append, mark_opening, hinner]
    have hread := ih depth hdepth rest fun h => hend (endsInDollar_group_append.mpr h)
    rw [List.append_assoc, hgroup, hgroup, hread]
    simp
  | @dollar isInside others hnext _ ih =>
    intro depth hdepth rest hend
    have hends := endsInDollar_dollar_cons hnext
    have hboth : BeginsNothing (others ++ rest) :=
      hnext.append fun hnil => hend (hends.mpr (.inl hnil))
    rw [List.cons_append, mark_dollar_cons hboth, mark_dollar_cons hnext,
      ih depth hdepth rest fun h => hend (hends.mpr (.inr h)), List.cons_append]
  | @unit isInside u others hdollar hclosing _ ih =>
    intro depth hdepth rest hend
    have hread := mark_unit_cons hdollar hclosing hdepth
    rw [List.cons_append, hread, hread,
      ih depth hdepth rest fun h => hend ((endsInDollar_cons hdollar).mpr h), List.cons_append]

/-- A group is read as what it encloses, between the marks of its braces. -/
theorem mark_group_append (h : Closed true body) (depth : Nat) (rest : List Nat) :
    mark depth (group body ++ rest) =
      (dollar, false) :: (opening, false) :: mark (depth + 1) body ++
        (closing, false) :: mark depth rest := by
  have hbody := mark_append_of_closed h (depth + 1) (fun h => by cases h) (closing :: rest)
    fun _ => beginsNothing_closing rest
  rw [mark_closing] at hbody
  simp only [group, List.cons_append, List.append_assoc, List.nil_append, mark_opening, hbody]

/-- **What a group encloses is hidden.** -/
theorem hidden_of_closed (h : Closed isInside units) :
    isInside = true → ∀ depth : Nat, ∀ m ∈ mark (depth + 1) units, m.2 = false := by
  induction h with
  | nil => simp
  | escape _ ih =>
    intro hinside depth
    simpa only [mark_escape, List.forall_mem_cons, true_and] using ih hinside depth
  | @group isInside inner others hinner _ ihinner ih =>
    intro hinside depth
    rw [mark_group_append hinner]
    simp only [List.cons_append, List.forall_mem_cons, List.forall_mem_append, true_and]
    exact ⟨ihinner rfl (depth + 1), ih hinside depth⟩
  | @dollar isInside others hnext _ ih =>
    intro hinside depth
    rw [mark_dollar_cons hnext, List.forall_mem_cons]
    exact ⟨rfl, ih hinside depth⟩
  | @unit isInside u others hdollar hclosing _ ih =>
    intro hinside depth
    rw [mark_unit_cons hdollar hclosing (by simp [hinside]), List.forall_mem_cons]
    exact ⟨rfl, ih hinside depth⟩

/-! ## Cutting at a seam -/

theorem length_mark (depth : Nat) (units : List Nat) :
    (mark depth units).length = units.length := by
  rw [← List.length_map (f := Prod.fst), map_fst_mark]

theorem lt_length_of_mem_positions {i : Nat} (h : i ∈ positions sep units) : i < units.length := by
  have hlt := Text.lt_of_mem_positions h
  rwa [length_mark, Nat.zero_add] at hlt

/-- Where a text is read in two, so are its separators found. -/
theorem positions_of_mark_append {ms : List Marked}
    (h : mark 0 (before ++ after) = mark 0 before ++ ms) (sep : Nat) :
    positions sep (before ++ after) =
      positions sep before ++ (Text.positions (· == (sep, true)) 0 ms).map (· + before.length) := by
  rw [positions, h, Text.positions_append, Nat.zero_add, length_mark,
    Text.positions_eq_map _ before.length]
  rfl

/-- What is hidden has no separators. -/
theorem positions_hidden {ms : List Marked} (h : ∀ m ∈ ms, m.2 = false) (start : Nat) :
    Text.positions (· == (sep, true)) start ms = [] := by
  refine Text.positions_eq_nil (fun m hm => ?_) start
  rw [beq_eq_false_iff_ne]
  rintro rfl
  cases h _ hm

/-- **Behind a seam a text is cut as if it stood alone.** -/
theorem positions_append (hclosed : Closed false before) (hend : ¬ EndsInDollar before)
    (sep : Nat) (after : List Nat) : positions sep (before ++ after) =
      positions sep before ++ (positions sep after).map (· + before.length) :=
  positions_of_mark_append
    (mark_append_of_closed hclosed 0 (fun _ => rfl) after fun h => absurd h hend) sep

/-- A group has no separators, and behind it a text is cut as if it stood alone. -/
theorem positions_group_append (h : Closed true body) (sep : Nat) (after : List Nat) :
    positions sep (group body ++ after) =
      (positions sep after).map (· + (group body).length) := by
  have hclosed : Closed false (group body) := by
    simpa using Closed.group h .nil
  have hend : ¬ EndsInDollar (group body) := by
    have hiff : EndsInDollar (group body ++ []) ↔ EndsInDollar [] := endsInDollar_group_append
    rw [List.append_nil] at hiff
    rw [hiff]
    decide
  have hnone : positions sep (group body) = [] := by
    refine positions_hidden ?_ 0
    have hgroup := mark_group_append h 0 []
    rw [List.append_nil] at hgroup
    rw [hgroup]
    simpa [List.forall_mem_append] using hidden_of_closed h rfl 0
  rw [positions_append hclosed hend, hnone, List.nil_append]

/-- Where a position is once something is put in at a seam. -/
def moved (seam length i : Nat) : Nat := if i < seam then i else i + length

/-- **A group can be put in at a seam, or taken out**: the separators around it stay separators. -/
theorem positions_insert (hclosed : Closed false before) (hend : ¬ EndsInDollar before)
    (hbody : Closed true body) (sep : Nat) (after : List Nat) :
    positions sep (before ++ group body ++ after) =
      (positions sep (before ++ after)).map (moved before.length (group body).length) := by
  have hbefore : (positions sep before).map (moved before.length (group body).length) =
      positions sep before := by
    refine (List.map_congr_left fun i hi => ?_).trans (List.map_id _)
    exact if_pos (lt_length_of_mem_positions hi)
  rw [List.append_assoc, positions_append hclosed hend, positions_append hclosed hend,
    positions_group_append hbody, List.map_append, hbefore, List.map_map, List.map_map]
  refine congrArg _ (List.map_congr_left fun i _ => ?_)
  simp only [moved, Function.comp_apply]
  rw [if_neg (by omega)]
  omega

/-! ## What is no seam -/

/-- The number of groups that are open at the end of units, when they are read inside `depth` of
them. -/
def openGroups : Nat → List Nat → Nat
  | depth, [] => depth
  | depth, dollar :: dollar :: rest => openGroups depth rest
  | depth, dollar :: opening :: rest => openGroups (depth + 1) rest
  | depth + 1, closing :: rest => openGroups depth rest
  | depth, _ :: rest => openGroups depth rest

/-- A unit without a meaning is read in the groups that are open before it. -/
theorem mark_concat (hu : u ∉ [dollar, opening, closing]) (depth : Nat) (units : List Nat) :
    mark depth (units ++ [u]) = mark depth units ++ [(u, openGroups depth units == 0)] := by
  simp only [List.mem_cons, List.not_mem_nil, or_false, not_or] at hu
  obtain ⟨hdollar, hopening, hclosing⟩ := hu
  fun_induction openGroups depth units with
  | case1 depth =>
    rw [List.nil_append, mark_ordinary (fun h => absurd h hdollar) fun h => absurd h hclosing]
    simp
  | case2 depth rest ih =>
    change mark depth (dollar :: dollar :: (rest ++ [u])) =
      mark depth (dollar :: dollar :: rest) ++ _
    rw [mark_escape, mark_escape, ih]
    rfl
  | case3 depth rest ih =>
    change mark depth (dollar :: opening :: (rest ++ [u])) =
      mark depth (dollar :: opening :: rest) ++ _
    rw [mark_opening, mark_opening, ih]
    rfl
  | case4 depth rest ih =>
    change mark (depth + 1) (closing :: (rest ++ [u])) = mark (depth + 1) (closing :: rest) ++ _
    rw [mark_closing, mark_closing, ih]
    rfl
  | case5 depth v rest hescape hgroup hbrace ih =>
    have hdepth : v = closing → depth = 0 := fun hv => by
      cases depth with
      | zero => rfl
      | succ n => exact absurd hv (hbrace n rfl)
    have hnext : ∀ others, v = dollar → rest ≠ dollar :: others ∧ rest ≠ opening :: others :=
      fun others hv => ⟨hescape others hv, hgroup others hv⟩
    -- At the end of the units it is `u` that a dollar would have to go on with.
    have hboth : ∀ others, v = dollar →
        rest ++ [u] ≠ dollar :: others ∧ rest ++ [u] ≠ opening :: others := by
      intro others hv
      cases rest with
      | nil => simp [hdollar, hopening]
      | cons w rest =>
        have hw := hnext rest hv
        simp_all
    rw [List.cons_append, mark_ordinary (fun hv others => hboth others hv) hdepth, ih,
      mark_ordinary (fun hv others => hnext others hv) hdepth, List.cons_append]

/-- Units that close all groups that they open, and `depth` more that are open before them. -/
inductive Closes : (depth : Nat) → List Nat → Prop
  | here {units : List Nat} : Closed false units → Closes 0 units
  | outer {depth : Nat} {inner rest : List Nat} : Closed true inner → Closes depth rest →
      Closes (depth + 1) (inner ++ closing :: rest)

/-- What may be put before the first closing brace may be put before all of them. -/
theorem Closes.append_left (h : Closes depth units)
    (hbefore : ∀ {isInside : Bool} {inner : List Nat}, (isInside = true → depth ≠ 0) →
      inner <+: units → Closed isInside inner → Closed isInside (before ++ inner)) :
    Closes depth (before ++ units) := by
  cases h with
  | here hclosed => exact .here (hbefore (fun h => by cases h) (List.prefix_refl _) hclosed)
  | outer hinner hrest =>
    rw [← List.append_assoc]
    exact .outer (hbefore (fun _ => Nat.succ_ne_zero _) (List.prefix_append _ _) hinner) hrest

theorem closes_of_openGroups (h : openGroups depth units = 0) : Closes depth units := by
  fun_induction openGroups depth units with
  | case1 depth =>
    subst h
    exact .here .nil
  | case2 depth rest ih =>
    change Closes depth ([dollar, dollar] ++ rest)
    exact (ih h).append_left fun _ _ => .escape
  | case3 depth rest ih =>
    obtain _ | ⟨hinner, hrest⟩ := ih h
    have hgroup := hrest.append_left fun _ _ => Closed.group hinner
    simp only [group, List.cons_append, List.append_assoc, List.nil_append] at hgroup
    exact hgroup
  | case4 depth rest ih => exact .outer .nil (ih h)
  | case5 depth v rest hescape hgroup hbrace ih =>
    change Closes depth ([v] ++ rest)
    refine (ih h).append_left fun {isInside inner} hdepth hprefix hclosed => ?_
    by_cases hv : v = dollar
    · subst hv
      refine .dollar (fun u hu => ?_) hclosed
      obtain ⟨others, rfl⟩ := List.head?_eq_some_iff.mp hu
      obtain ⟨others', rfl⟩ := hprefix
      exact ⟨fun hu => hescape _ rfl (by rw [hu]; rfl), fun hu => hgroup _ rfl (by rw [hu]; rfl)⟩
    · refine .unit hv (fun hinside => ?_) hclosed
      obtain ⟨n, rfl⟩ := Nat.exists_eq_succ_of_ne_zero (hdepth hinside)
      exact hbrace n rfl

/-- A dollar at the end makes a brace behind it open a group. -/
theorem exists_hidden_of_endsInDollar (h : Closed isInside units)
    (hu : u ∉ [dollar, opening, closing]) : EndsInDollar units →
      ∀ depth : Nat, (isInside = false → depth = 0) →
        ∃ ms, mark depth (units ++ [opening, u]) = ms ++ [(u, false)] := by
  induction h with
  | nil => exact fun hend => absurd hend (by decide)
  | escape _ ih =>
    intro hend depth hdepth
    obtain ⟨ms, hms⟩ := ih (endsInDollar_escape.mp hend) depth hdepth
    exact ⟨(dollar, false) :: (dollar, false) :: ms, by
      rw [List.cons_append, List.cons_append, mark_escape, hms]; rfl⟩
  | @group isInside inner others hinner _ _ ih =>
    intro hend depth hdepth
    obtain ⟨ms, hms⟩ := ih (endsInDollar_group_append.mp hend) depth hdepth
    refine ⟨(dollar, false) :: (opening, false) :: mark (depth + 1) inner ++ (closing, false) :: ms,
      ?_⟩
    rw [List.append_assoc, mark_group_append hinner, hms]
    simp
  | @dollar isInside others hnext _ ih =>
    intro hend depth hdepth
    obtain rfl | hend := (endsInDollar_dollar_cons hnext).mp hend
    · refine ⟨[(dollar, false), (opening, false)], ?_⟩
      have hunit := mark_concat hu (depth + 1) []
      rw [List.nil_append, mark_nil] at hunit
      rw [List.singleton_append, mark_opening, hunit]
      rfl
    · obtain ⟨ms, hms⟩ := ih hend depth hdepth
      have hboth : BeginsNothing (others ++ [opening, u]) := hnext.append fun hnil => by
        subst hnil
        exact absurd hend (by decide)
      exact ⟨(dollar, depth == 0) :: ms, by
        rw [List.cons_append, mark_dollar_cons hboth, hms]; rfl⟩
  | @unit isInside v others hdollar hclosing _ ih =>
    intro hend depth hdepth
    obtain ⟨ms, hms⟩ := ih ((endsInDollar_cons hdollar).mp hend) depth hdepth
    exact ⟨(v, depth == 0) :: ms, by
      rw [List.cons_append, mark_unit_cons hdollar hclosing hdepth, hms]; rfl⟩

/-- A group that is open hides what follows. -/
theorem closed_of_positions_append
    (h : ∀ sep after, positions sep (before ++ after) =
      positions sep before ++ (positions sep after).map (· + before.length)) :
    Closed false before := by
  have hcloses : openGroups 0 before = 0 := by
    by_contra hopen
    have hread := mark_concat (u := 0x61) (by decide) 0 before
    rw [beq_eq_false_iff_ne.mpr hopen] at hread
    have hseam := h 0x61 [0x61]
    have hnone : Text.positions (· == (0x61, true)) 0 [((0x61, false) : Marked)] = [] := rfl
    rw [positions_of_mark_append hread, hnone] at hseam
    cases List.append_cancel_left hseam
  obtain hclosed | _ := closes_of_openGroups hcloses
  exact hclosed

theorem not_endsInDollar_of_positions_append (hclosed : Closed false before)
    (h : ∀ sep after, positions sep (before ++ after) =
      positions sep before ++ (positions sep after).map (· + before.length)) :
    ¬ EndsInDollar before := by
  intro hend
  obtain ⟨ms, hms⟩ :=
    exists_hidden_of_endsInDollar (u := 0x61) hclosed (by decide) hend 0 fun _ => rfl
  have hlength : before.length + 2 = ms.length + 1 := by
    simpa [length_mark] using congrArg List.length hms
  -- By the seam the letter is exposed, as it is in a text that begins with the brace.
  have hletter : before.length + 1 ∈ positions 0x61 (before ++ [opening, 0x61]) := by
    rw [h]
    exact List.mem_append_right _ (List.mem_map.mpr ⟨1, by decide, Nat.add_comm _ _⟩)
  rw [positions, hms, Text.positions_append, List.mem_append] at hletter
  obtain hbefore | hlast := hletter
  · have hlt := Text.lt_of_mem_positions hbefore
    omega
  · simp [Text.positions] at hlast

/-- **Cutting is compositional at seams.** Behind exactly the texts that close their groups and do
not end in a dollar of their own, separators are found as in the rest alone, whatever the rest and
the separator are. There a group around whatever closes its own groups can be put in or taken out,
and the other separators stay. -/
theorem positions_append_iff_and_insert (before : List Nat) :
    ((∀ sep after, positions sep (before ++ after) =
        positions sep before ++ (positions sep after).map (· + before.length)) ↔
      Closed false before ∧ ¬ EndsInDollar before) ∧
    (Closed false before → ¬ EndsInDollar before → ∀ body, Closed true body → ∀ sep after,
      positions sep (before ++ group body ++ after) =
        (positions sep (before ++ after)).map (moved before.length (group body).length)) := by
  refine ⟨⟨fun h => ?_, fun ⟨hclosed, hend⟩ sep after => positions_append hclosed hend sep after⟩,
    fun hclosed hend body hbody sep after => positions_insert hclosed hend hbody sep after⟩
  have hclosed := closed_of_positions_append h
  exact ⟨hclosed, not_endsInDollar_of_positions_append hclosed h⟩

/-- Behind `a:$$}${:}` is a seam, and `${:${x}$$}` can be put in there. -/
theorem positions_insert_nested :
    (∀ sep after,
      positions sep ((0x61 :: 0x3A :: dollar :: dollar :: closing :: group [0x3A]) ++ after) =
        positions sep (0x61 :: 0x3A :: dollar :: dollar :: closing :: group [0x3A]) ++
          (positions sep after).map (· + 9)) ∧
    positions 0x3A ((0x61 :: 0x3A :: dollar :: dollar :: closing :: group [0x3A]) ++
      group (0x3A :: (group [0x78] ++ [dollar, dollar])) ++ [0x3A]) = [1, 19] := by
  have hinside : ∀ {u : Nat}, u ≠ dollar → u ≠ closing → Closed true [u] := fun hdollar hclosing =>
    .unit hdollar (fun _ => hclosing) .nil
  have hbefore : Closed false (0x61 :: 0x3A :: dollar :: dollar :: closing :: group [0x3A]) :=
    .unit (by decide) nofun <| .unit (by decide) nofun <| .escape <| .unit (by decide) nofun <|
      .group (hinside (by decide) (by decide)) .nil
  have hbody : Closed true (0x3A :: (group [0x78] ++ [dollar, dollar])) :=
    .unit (by decide) (fun _ => by decide) <|
      .group (hinside (by decide) (by decide)) (.escape .nil)
  obtain ⟨hseam, hinsert⟩ := positions_append_iff_and_insert
    (0x61 :: 0x3A :: dollar :: dollar :: closing :: group [0x3A])
  exact ⟨hseam.mpr ⟨hbefore, by decide⟩, hinsert hbefore (by decide) _ hbody 0x3A [0x3A]⟩

end Substitution.Units

end ComposeLint
