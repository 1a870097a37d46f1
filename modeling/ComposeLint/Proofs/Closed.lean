import ComposeLint.Proofs.Splitting

/-!
# Texts that close their groups

Behind a text that closes its groups a separator is exposed, whatever else the text holds, and what
follows it is read as if it stood alone (`mark_append_divides`). This is also the only place where a
separator is exposed: where a text is cut for the first or the last time is said by the two sides
alone (`cutFirst?_eq_some_iff`, `cutLast?_eq_some_iff`). A text that is closed and that some
separators do not cut is `Whole`.
-/

namespace ComposeLint

namespace Substitution

variable {sep other : Char} {text before after cs : List Char} {first last : List Marked}

/-! ## Behind a closed text -/

/-- A character that can cut a text and is no part of the syntax of substitutions. -/
structure Divides (sep : Char) : Prop where
  separates : Separates sep
  ne_opening : sep ≠ '{'
  ne_closing : sep ≠ '}'

theorem divides_colon : Divides ':' := ⟨separates_colon, by decide, by decide⟩

theorem divides_slash : Divides '/' := ⟨separates_slash, by decide, by decide⟩

theorem divides_at : Divides '@' := ⟨separates_at, by decide, by decide⟩

/-- Every group of the text is closed in it. -/
def Closed (cs : List Char) : Prop := openGroups 0 cs = 0

instance : DecidablePred Closed := fun cs => inferInstanceAs (Decidable (openGroups 0 cs = 0))

/-- **A text is closed exactly when a colon behind it is exposed.** -/
theorem closed_iff : Closed cs ↔ mark 0 (cs ++ [':']) = mark 0 cs ++ [(':', true)] := by
  rw [mark_append_cons (by decide) (by decide) (by decide)]
  simp [Closed]

theorem mark_append_divides (hsep : Divides sep) (h : Closed before) (after : List Char) :
    mark 0 (before ++ sep :: after) = mark 0 before ++ (sep, true) :: mark 0 after := by
  rw [mark_append_cons hsep.separates.1 hsep.ne_opening hsep.ne_closing, h]
  rfl

/-- What stands behind a closed text and a separator is closed if the whole is. -/
theorem closed_append_cons_iff (hsep : Divides sep) (h : Closed before) :
    Closed (before ++ sep :: after) ↔ Closed after := by
  rw [closed_iff, closed_iff, List.append_assoc, List.cons_append, mark_append_divides hsep h,
    mark_append_divides hsep h]
  simp

theorem closed_plain (h : '$' ∉ cs) : Closed cs := by
  rw [closed_iff, mark_plain_append h, mark_plain h]
  rfl

/-- Another separator does not cut the whole when it cuts neither side. -/
theorem uncut_append_cons_iff (hsep : Divides sep) (h : Closed before) (hne : other ≠ sep) :
    Uncut other (before ++ sep :: after) ↔ Uncut other before ∧ Uncut other after := by
  have hself : isCut other (sep, true) = false := by simp [isCut, Ne.symm hne]
  simp [Uncut, mark_append_divides hsep h, or_imp, forall_and, hself]

/-! ## Cutting once -/

/-- **An exposed separator** stands behind a closed text. -/
theorem of_mark_eq (hsep : Divides sep) (h : mark 0 text = first ++ (sep, true) :: last) :
    text = unmark first ++ sep :: unmark last ∧ Closed (unmark first) ∧
      mark 0 (unmark first) = first ∧ mark 0 (unmark last) = last := by
  have htext : text = unmark first ++ sep :: unmark last := by
    rw [← unmark_mark 0 text, h]
    simp [unmark]
  rw [htext, mark_append_cons hsep.separates.1 hsep.ne_opening hsep.ne_closing] at h
  have hlength : (mark 0 (unmark first)).length = first.length := by
    rw [length_mark, unmark, List.length_map]
  obtain ⟨hfirst, hrest⟩ := List.append_inj h hlength
  obtain ⟨hexposed, hlast⟩ := List.cons.inj hrest
  have hclosed : openGroups 0 (unmark first) = 0 := by simpa using congrArg Prod.snd hexposed
  rw [hclosed] at hlast
  exact ⟨htext, hclosed, hfirst, hlast⟩

/-- What is cut at is the separator, and it is exposed. -/
theorem eq_of_isCut {m : Marked} (h : isCut sep m = true) : m = (sep, true) := by
  simp only [isCut, Bool.and_eq_true, beq_iff_eq] at h
  exact Prod.ext h.1.2 h.1.1

/-- **The first cut** is the separator behind a closed text that it does not cut. -/
theorem cutFirst?_eq_some_iff (hsep : Divides sep) : cutFirst? sep text = some (before, after) ↔
    text = before ++ sep :: after ∧ Closed before ∧ Uncut sep before := by
  rw [cutFirst?, Option.map_eq_some_iff]
  constructor
  · rintro ⟨cut, hcut, heq⟩
    obtain ⟨rfl, rfl⟩ := Prod.mk.inj heq
    obtain ⟨m, hmarks, hm, hfirst⟩ := Text.cutFirst?_eq_some_iff.mp hcut
    obtain rfl := eq_of_isCut hm
    obtain ⟨htext, hclosed, hmark, -⟩ := of_mark_eq hsep hmarks
    exact ⟨htext, hclosed, by rwa [Uncut, hmark]⟩
  · rintro ⟨rfl, hclosed, huncut⟩
    refine ⟨(mark 0 before, mark 0 after), Text.cutFirst?_eq_some_iff.mpr ⟨_, ?_,
      isCut_self hsep.separates, huncut⟩, by rw [unmark_mark, unmark_mark]⟩
    exact mark_append_divides hsep hclosed after

/-- **The last cut** is the separator behind a closed text that does not cut what follows. -/
theorem cutLast?_eq_some_iff (hsep : Divides sep) : cutLast? sep text = some (before, after) ↔
    text = before ++ sep :: after ∧ Closed before ∧ Uncut sep after := by
  rw [cutLast?, Option.map_eq_some_iff]
  constructor
  · rintro ⟨cut, hcut, heq⟩
    obtain ⟨rfl, rfl⟩ := Prod.mk.inj heq
    obtain ⟨m, hmarks, hm, hlast⟩ := Text.cutLast?_eq_some_iff.mp hcut
    obtain rfl := eq_of_isCut hm
    obtain ⟨htext, hclosed, -, hmark⟩ := of_mark_eq hsep hmarks
    exact ⟨htext, hclosed, by rwa [Uncut, hmark]⟩
  · rintro ⟨rfl, hclosed, huncut⟩
    refine ⟨(mark 0 before, mark 0 after), Text.cutLast?_eq_some_iff.mpr ⟨_, ?_,
      isCut_self hsep.separates, huncut⟩, by rw [unmark_mark, unmark_mark]⟩
    exact mark_append_divides hsep hclosed after

theorem cutFirst?_eq_none_iff : cutFirst? sep text = none ↔ Uncut sep text := by
  rw [cutFirst?, Option.map_eq_none_iff, Text.cutFirst?_eq_none_iff]
  rfl

theorem cutLast?_eq_none_iff : cutLast? sep text = none ↔ Uncut sep text := by
  rw [cutLast?, Option.map_eq_none_iff, Text.cutLast?_eq_none_iff]
  rfl

/-- There is always a part. -/
theorem split_ne_nil (sep : Char) (text : List Char) : split sep text ≠ [] := by
  simp [split, parts_eq_splitOnP]

/-- A text that closes its groups and that none of some separators cuts. -/
structure Whole (seps : List Char) (cs : List Char) : Prop where
  closed : Closed cs
  uncut : ∀ sep ∈ seps, Uncut sep cs

theorem whole_nil_iff : Whole [] cs ↔ Closed cs :=
  ⟨Whole.closed, fun h => ⟨h, List.forall_mem_nil _⟩⟩

theorem whole_cons_iff {seps : List Char} :
    Whole (sep :: seps) cs ↔ Uncut sep cs ∧ Whole seps cs := by
  constructor
  · rintro ⟨hclosed, huncut⟩
    obtain ⟨hsep, hseps⟩ := List.forall_mem_cons.mp huncut
    exact ⟨hsep, hclosed, hseps⟩
  · rintro ⟨hsep, hclosed, hseps⟩
    exact ⟨hclosed, List.forall_mem_cons.mpr ⟨hsep, hseps⟩⟩

theorem whole_plain {seps : List Char} (hdollar : '$' ∉ cs) (h : ∀ sep ∈ seps, sep ∉ cs) :
    Whole seps cs :=
  ⟨closed_plain hdollar, fun sep hsep => uncut_plain hdollar (h sep hsep)⟩

/-- **A text is whole** when both sides of a separator are, and so they are when it is. -/
theorem whole_append_cons_iff {seps : List Char} (hsep : Divides sep) (h : Closed before)
    (hne : sep ∉ seps) :
    Whole seps (before ++ sep :: after) ↔ Whole seps before ∧ Whole seps after := by
  have huncut : ∀ other ∈ seps, (Uncut other (before ++ sep :: after) ↔
      Uncut other before ∧ Uncut other after) :=
    fun other hother => uncut_append_cons_iff hsep h fun heq => hne (heq ▸ hother)
  constructor
  · rintro ⟨hclosed, hall⟩
    refine ⟨⟨h, fun other hother => ?_⟩, (closed_append_cons_iff hsep h).mp hclosed,
      fun other hother => ?_⟩
    · exact ((huncut other hother).mp (hall other hother)).1
    · exact ((huncut other hother).mp (hall other hother)).2
  · rintro ⟨hbefore, hafter⟩
    exact ⟨(closed_append_cons_iff hsep h).mpr hafter.closed, fun other hother =>
      (huncut other hother).mpr ⟨hbefore.uncut other hother, hafter.uncut other hother⟩⟩

end Substitution

end ComposeLint
