import ComposeLint.Proofs.Cutting
import ComposeLint.Substitution
import Mathlib.Data.List.Basic

/-!
# Marks, and the cuts that are read off them

`Substitution.mark` decides which characters of a text are exposed. This file says what it does with
the texts that manifests are put together from: a text without a dollar is exposed as a whole
(`mark_plain`), and a group is hidden as a whole however groups and escapes are nested in it
(`mark_group`). Both are `Balanced`: what follows them is read as if it stood alone. A text that may
end with a lone dollar is not, but if it leaves no group open (`openGroups`), a colon after it is
exposed (`split_append_colon`). Splitting and cutting then come down to the library's `splitOnP`
over the marks.
-/

namespace ComposeLint

namespace Substitution

variable {sep c : Char} {cs text before after body : List Char} {depth : Nat}

/-! ## Reading one character -/

@[simp] theorem mark_nil : mark depth [] = [] := by
  cases depth <;> rfl

theorem mark_cons (hdollar : c ≠ '$') (hbrace : c ≠ '}') :
    mark depth (c :: text) = (c, depth == 0) :: mark depth text := by
  rw [mark]
  · exact fun _ heq => absurd heq hdollar
  · exact fun _ heq => absurd heq hdollar
  · exact fun _ _ heq => absurd heq hbrace

theorem mark_zero_cons (hdollar : c ≠ '$') : mark 0 (c :: text) = (c, true) :: mark 0 text := by
  rw [mark]
  · rfl
  · exact fun _ heq => absurd heq hdollar
  · exact fun _ heq => absurd heq hdollar
  · exact fun _ hdepth => by cases hdepth

/-- A dollar that begins neither an escape nor a group is an ordinary character. -/
theorem mark_dollar (h : ∀ c ∈ text.head?, c ≠ '$' ∧ c ≠ '{') :
    mark depth ('$' :: text) = ('$', depth == 0) :: mark depth text := by
  cases text with
  | nil => cases depth <;> rfl
  | cons c text =>
    obtain ⟨hdollar, hbrace⟩ := h c rfl
    rw [mark] <;> simp_all

/-- Marks are put on a text and do not change it. -/
theorem unmark_mark (depth : Nat) (text : List Char) : unmark (mark depth text) = text := by
  fun_induction mark depth text <;> simp_all [unmark]

theorem length_mark (depth : Nat) (text : List Char) : (mark depth text).length = text.length := by
  simpa [unmark] using congrArg List.length (unmark_mark depth text)

/-! ## Texts that leave nothing open -/

/-- What follows the text is read as if it stood alone: no group is open at its end, and no dollar
stands there. -/
def Balanced (cs : List Char) : Prop := ∀ rest, mark 0 (cs ++ rest) = mark 0 cs ++ mark 0 rest

theorem Balanced.append (hbefore : Balanced before) (hafter : Balanced after) :
    Balanced (before ++ after) := by
  intro rest
  rw [List.append_assoc, hbefore, hafter, hbefore, List.append_assoc]

/-- A text without a dollar is exposed as a whole, braces included. -/
theorem mark_plain_append (h : '$' ∉ cs) (rest : List Char) :
    mark 0 (cs ++ rest) = cs.map (·, true) ++ mark 0 rest := by
  induction cs with
  | nil => rfl
  | cons c cs ih =>
    rw [List.mem_cons, not_or] at h
    rw [List.cons_append, mark_zero_cons (Ne.symm h.1), ih h.2]
    rfl

theorem mark_plain (h : '$' ∉ cs) : mark 0 cs = cs.map (·, true) := by
  simpa using mark_plain_append h []

theorem balanced_plain (h : '$' ∉ cs) : Balanced cs := fun rest => by
  rw [mark_plain_append h, mark_plain h]

/-- The number of groups that are open at the end of a text, when it is read inside `depth` of
them. -/
def openGroups : Nat → List Char → Nat
  | depth, [] => depth
  | depth, '$' :: '$' :: rest => openGroups depth rest
  | depth, '$' :: '{' :: rest => openGroups (depth + 1) rest
  | depth + 1, '}' :: rest => openGroups depth rest
  | depth, _ :: rest => openGroups depth rest

/-- A character that is no part of the syntax is read in the groups that are open before it, even
after a dollar; it is a new start for what follows. -/
theorem mark_append_cons (hdollar : c ≠ '$') (hopening : c ≠ '{') (hclosing : c ≠ '}')
    (depth : Nat) (cs after : List Char) :
    mark depth (cs ++ c :: after) =
      mark depth cs ++ (c, openGroups depth cs == 0) :: mark (openGroups depth cs) after := by
  fun_induction openGroups depth cs with
  | case1 depth => rw [List.nil_append, mark_cons hdollar hclosing, mark_nil, List.nil_append]
  | case2 depth rest ih => simp only [List.cons_append, mark, ih]
  | case3 depth rest ih => simp only [List.cons_append, mark, ih]
  | case4 depth rest ih => simp only [List.cons_append, mark, ih]
  | case5 depth d rest hescape hgroup hbrace ih =>
    -- At the end of the text it is `c` that a dollar would have to go on with.
    have hnext : ∀ e others, e = '$' ∨ e = '{' → d = '$' → rest ++ c :: after ≠ e :: others := by
      intro e others he hd heq
      cases rest with
      | nil =>
        obtain ⟨rfl, -⟩ := List.cons.inj heq
        exact he.elim hdollar hopening
      | cons f rest =>
        obtain ⟨rfl, -⟩ := List.cons.inj heq
        rcases he with rfl | rfl
        · exact hescape rest hd rfl
        · exact hgroup rest hd rfl
    rw [List.cons_append, mark, mark, ih]
    · rfl
    · exact hescape
    · exact hgroup
    · exact hbrace
    · exact fun others hd => hnext _ others (.inl rfl) hd
    · exact fun others hd => hnext _ others (.inr rfl) hd
    · exact hbrace

/-! ## Groups -/

/-- What may stand in a group: escapes, groups, and any character but a closing brace. -/
inductive Enclosed : List Char → Prop
  | nil : Enclosed []
  /-- An escape hides its second dollar from the brace after it. -/
  | escape {rest : List Char} : Enclosed rest → Enclosed ('$' :: '$' :: rest)
  | group {inner rest : List Char} : Enclosed inner → Enclosed rest →
      Enclosed ('$' :: '{' :: inner ++ '}' :: rest)
  /-- A dollar that begins nothing. -/
  | dollar {rest : List Char} : (∀ c ∈ rest.head?, c ≠ '$' ∧ c ≠ '{') → Enclosed rest →
      Enclosed ('$' :: rest)
  | char {c : Char} {rest : List Char} : c ≠ '$' → c ≠ '}' → Enclosed rest → Enclosed (c :: rest)

/-- The group around a text. -/
def group (body : List Char) : List Char := '$' :: '{' :: body ++ ['}']

/-- **What is enclosed is hidden**, up to the brace that closes the group around it. -/
theorem mark_enclosed (h : Enclosed body) : ∀ (depth : Nat) (rest : List Char),
    mark (depth + 1) (body ++ '}' :: rest) =
      body.map (·, false) ++ mark (depth + 1) ('}' :: rest) := by
  -- On how the body is enclosed. A group in it opens one more, so the depth is arbitrary.
  induction h with
  | nil => intro depth rest; rfl
  | escape _ ih =>
    intro depth rest
    simp only [mark, ih depth rest, List.map_cons, List.cons_append]
  | @group inner after _ _ ihinner ihafter =>
    intro depth rest
    have hinner := ihinner (depth + 1) (after ++ '}' :: rest)
    simp only [List.cons_append, List.append_assoc, mark, List.map_cons,
      List.map_append] at hinner ⊢
    rw [hinner, ihafter depth rest]
    simp only [mark]
  | @dollar after hhead _ ih =>
    intro depth rest
    have hnext : ∀ c ∈ (after ++ '}' :: rest).head?, c ≠ '$' ∧ c ≠ '{' := by
      cases after with
      | nil => simp
      | cons c after => exact hhead
    rw [List.cons_append, mark_dollar hnext, ih depth rest]
    rfl
  | char hdollar hbrace _ ih =>
    intro depth rest
    rw [List.cons_append, mark_cons hdollar hbrace, ih depth rest]
    rfl

/-- **A group is hidden as a whole**, wherever it stands. -/
theorem mark_group_append (h : Enclosed body) (depth : Nat) (rest : List Char) :
    mark depth (group body ++ rest) = (group body).map (·, false) ++ mark depth rest := by
  have hbody := mark_enclosed h depth rest
  simp only [group, List.cons_append, List.append_assoc, List.nil_append, mark, List.map_cons,
    List.map_append, List.map_nil] at hbody ⊢
  rw [hbody]

theorem mark_group (h : Enclosed body) : mark 0 (group body) = (group body).map (·, false) := by
  simpa using mark_group_append h 0 []

theorem balanced_group (h : Enclosed body) : Balanced (group body) := fun rest => by
  rw [mark_group_append h, mark_group h]

/-- A text without dollars and closing braces can be enclosed. -/
theorem enclosed_plain (hdollar : '$' ∉ cs) (hbrace : '}' ∉ cs) : Enclosed cs := by
  induction cs with
  | nil => exact .nil
  | cons c cs ih =>
    rw [List.mem_cons, not_or] at hdollar hbrace
    exact .char (Ne.symm hdollar.1) (Ne.symm hbrace.1) (ih hdollar.2 hbrace.2)

/-- A group refers to a variable. -/
theorem occursIn_group (body : List Char) : occursIn (group body) = true := rfl

/-! ## Cuts -/

/-- Whether a separator cuts the text nowhere. -/
def Uncut (sep : Char) (cs : List Char) : Prop := ∀ m ∈ mark 0 cs, isCut sep m = false

/-- The characters that can cut: of one unit, and no dollar. -/
def Separates (sep : Char) : Prop := sep ≠ '$' ∧ Text.unitsOf sep = 1

theorem separates_colon : Separates ':' := ⟨by decide, by decide⟩

theorem separates_slash : Separates '/' := ⟨by decide, by decide⟩

theorem separates_at : Separates '@' := ⟨by decide, by decide⟩

theorem uncut_plain (hdollar : '$' ∉ cs) (hsep : sep ∉ cs) : Uncut sep cs := by
  intro m hm
  rw [mark_plain hdollar] at hm
  obtain ⟨c, hc, rfl⟩ := List.mem_map.mp hm
  have hne : c ≠ sep := fun heq => hsep (heq ▸ hc)
  simp [isCut, hne]

theorem uncut_group (h : Enclosed body) : Uncut sep (group body) := by
  intro m hm
  rw [mark_group h] at hm
  obtain ⟨c, -, rfl⟩ := List.mem_map.mp hm
  rfl

/-- A text that is read on its own and that the separator does not cut. -/
structure Solid (sep : Char) (cs : List Char) : Prop where
  balanced : Balanced cs
  uncut : Uncut sep cs

theorem solid_plain (hdollar : '$' ∉ cs) (hsep : sep ∉ cs) : Solid sep cs :=
  ⟨balanced_plain hdollar, uncut_plain hdollar hsep⟩

theorem solid_group (h : Enclosed body) : Solid sep (group body) :=
  ⟨balanced_group h, uncut_group h⟩

theorem Solid.append (hbefore : Solid sep before) (hafter : Solid sep after) :
    Solid sep (before ++ after) := by
  refine ⟨hbefore.balanced.append hafter.balanced, fun m hm => ?_⟩
  rw [hbefore.balanced, List.mem_append] at hm
  exact hm.elim (hbefore.uncut m) (hafter.uncut m)

/-- After a balanced text a separator is exposed. -/
theorem mark_append_sep (hsep : Separates sep) (h : Balanced before) (after : List Char) :
    mark 0 (before ++ sep :: after) = mark 0 before ++ (sep, true) :: mark 0 after := by
  rw [h, mark_zero_cons hsep.1]

theorem isCut_self (hsep : Separates sep) : isCut sep (sep, true) = true := by
  simp [isCut, hsep.2]

/-! ## Splitting -/

/-- The parts between cuts are those of the library. -/
theorem parts_eq_splitOnP (sep : Char) (ms : List Marked) :
    parts sep ms = (ms.splitOnP (isCut sep)).map unmark := by
  induction ms with
  | nil => rfl
  | cons m ms ih =>
    rw [parts, ih, List.splitOnP_cons_eq_if_modifyHead]
    by_cases hcut : isCut sep m
    · simp [hcut, unmark]
    · cases hsplit : ms.splitOnP (isCut sep) with
      | nil => exact absurd hsplit (List.splitOnP_ne_nil _ _)
      | cons part others => simp [hcut, unmark]

theorem split_of_uncut (h : Uncut sep cs) : split sep cs = [cs] := by
  rw [split, parts_eq_splitOnP, List.splitOnP_eq_singleton h, List.map_singleton, unmark_mark]

/-- Where a separator is exposed, both sides are split on their own. -/
theorem split_of_mark (hsep : Separates sep)
    (h : mark 0 (before ++ sep :: after) = mark 0 before ++ (sep, true) :: mark 0 after) :
    split sep (before ++ sep :: after) = split sep before ++ split sep after := by
  simp only [split, parts_eq_splitOnP]
  rw [h, List.splitOnP_append_cons _ _ (isCut_self hsep), List.map_append]

/-- **A separator after a balanced text cuts there**, and both sides are split on their own. -/
theorem split_append_sep (hsep : Separates sep) (h : Balanced before) (after : List Char) :
    split sep (before ++ sep :: after) = split sep before ++ split sep after :=
  split_of_mark hsep (mark_append_sep hsep h after)

/-- **A colon after a text that closes its groups cuts there**, whatever the text ends with. -/
theorem split_append_colon (hclosed : openGroups 0 before = 0) (huncut : Uncut ':' before)
    (after : List Char) : split ':' (before ++ ':' :: after) = before :: split ':' after := by
  have hmark : mark 0 (before ++ ':' :: after) = mark 0 before ++ (':', true) :: mark 0 after := by
    rw [mark_append_cons (by decide) (by decide) (by decide), hclosed]
    rfl
  rw [split_of_mark separates_colon hmark, split_of_uncut huncut, List.singleton_append]

/-- Splitting loses nothing: the parts joined again are the text. -/
theorem intercalate_parts (sep : Char) (ms : List Marked) :
    [sep].intercalate (parts sep ms) = unmark ms := by
  induction ms with
  | nil => rfl
  | cons m ms ih =>
    have hne : parts sep ms ≠ [] := by simp [parts_eq_splitOnP]
    obtain ⟨part, others, hparts⟩ := List.exists_cons_of_ne_nil hne
    rw [parts, hparts]
    rw [hparts] at ih
    by_cases hcut : isCut sep m
    · have hm : m.1 = sep := by
        simp only [isCut, Bool.and_eq_true, beq_iff_eq] at hcut
        exact hcut.1.2
      rw [if_pos hcut, List.intercalate_cons_cons, ih, ← hm]
      rfl
    · rw [if_neg hcut]
      change [sep].intercalate ((m.1 :: part) :: others) = m.1 :: unmark ms
      rw [← ih, List.intercalate_cons_cons_left]

theorem intercalate_split (sep : Char) (text : List Char) :
    [sep].intercalate (split sep text) = text := by
  rw [split, intercalate_parts, unmark_mark]

/-! ## Cutting once -/

/-- The last cut is the one that none follows. -/
theorem cutLast?_append {α : Type} {p : α → Bool} {x : α} (hx : p x = true) {ys : List α}
    (hys : ∀ y ∈ ys, p y = false) (xs : List α) :
    Text.cutLast? p (xs ++ x :: ys) = some (xs, ys) := by
  induction xs with
  | nil => simp [Text.cutLast?, Text.cutLast?_eq_none hys, hx]
  | cons _ xs ih => simp [Text.cutLast?, ih]

theorem cutFirst?_of_uncut (h : Uncut sep cs) : cutFirst? sep cs = none := by
  rw [cutFirst?, Text.cutFirst?_eq_none h]
  rfl

/-- **A separator after a text that it does not cut is the first cut.** -/
theorem cutFirst?_append_sep (hsep : Separates sep) (hbefore : Solid sep before)
    (after : List Char) : cutFirst? sep (before ++ sep :: after) = some (before, after) := by
  rw [cutFirst?, mark_append_sep hsep hbefore.balanced,
    Text.cutFirst?_append_of_forall hbefore.uncut, Text.cutFirst?, if_pos (isCut_self hsep)]
  simp [unmark_mark]

theorem cutLast?_of_uncut (h : Uncut sep cs) : cutLast? sep cs = none := by
  rw [cutLast?, Text.cutLast?_eq_none h]
  rfl

/-- **A separator after a balanced text is the last cut**, when nothing after it is one. -/
theorem cutLast?_append_sep (hsep : Separates sep) (hbefore : Balanced before)
    (hafter : Uncut sep after) : cutLast? sep (before ++ sep :: after) = some (before, after) := by
  rw [cutLast?, mark_append_sep hsep hbefore, cutLast?_append (isCut_self hsep) hafter]
  simp [unmark_mark]

end Substitution

end ComposeLint
