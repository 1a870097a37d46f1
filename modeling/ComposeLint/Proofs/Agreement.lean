import ComposeLint.Proofs.Acceptance
import Mathlib.Data.List.Forall2

/-!
# Two trees that are read alike

`Check.Agrees` says that a check finds related values in two places, or in neither of them. Like
`Check.Accepts` it goes through a check that is put together from others, so that nothing later
opens a check: two mappings agree if they do field by field, two records entry by entry, two lists
item by item (`agrees_object`, `agrees_record`, `agrees_list`). What stands under other keys has no
part in it.
-/

namespace ComposeLint

variable {α β γ δ : Type}

namespace Checked

/-! ## Values -/

theorem value?_eq_some_iff {result : Checked α} {value : α} :
    result.value? = some value ↔ result = .valid value := by
  cases result <;> simp [value?]

theorem value?_map (f : α → γ) (x : Checked α) : (x.map f).value? = x.value?.map f := by
  cases x <;> rfl

theorem value?_within (step : Step) (x : Checked α) : (x.within step).value? = x.value? := by
  cases x <;> rfl

theorem value?_seq (f : Checked (α → γ)) (x : Checked α) :
    (f <*> x).value? = f.value?.bind fun g => x.value?.map g := by
  change (apply f x).value? = _
  cases f <;> cases x <;> rfl

/-- Alternatives give the value of the first one that has any. -/
theorem value?_first_cons (result : Checked α) (rest : List (Checked α)) :
    (first (result :: rest)).value? = result.value?.or (first rest).value? := by
  cases hresult : result.value? with
  | some value => rw [value?_eq_some_iff.mp hresult]; rfl
  | none =>
    have hnot : ¬ result.Meets fun _ => True := by
      rintro ⟨value, rfl, -⟩
      cases hresult
    refine Option.ext fun value => ?_
    rw [Option.none_or, value?_eq_some_iff, value?_eq_some_iff, ← meets_eq_iff, ← meets_eq_iff,
      meets_first_of_not_valid hnot]

/-! ## Agreement -/

/-- Both results are values that are related, or neither is a value. -/
def Agree (R : α → β → Prop) (x : Checked α) (y : Checked β) : Prop :=
  Option.Rel R x.value? y.value?

namespace Agree

variable {R : α → β → Prop} {S : γ → δ → Prop} {x : Checked α} {y : Checked β}

theorem refl {R : α → α → Prop} (h : ∀ a, R a a) (x : Checked α) : Agree R x x := by
  rw [Agree]
  cases x.value? with
  | none => exact .none
  | some a => exact .some (h a)

theorem map {f : α → γ} {g : β → δ} (h : Agree R x y) (hfg : ∀ a b, R a b → S (f a) (g b)) :
    Agree S (x.map f) (y.map g) := by
  rw [Agree] at h ⊢
  rw [value?_map, value?_map]
  generalize x.value? = x, y.value? = y at h ⊢
  cases h with
  | none => exact .none
  | some h => exact .some (hfg _ _ h)

/-- Two results side by side agree when each does. -/
theorem seq {f : Checked (α → γ)} {g : Checked (β → δ)}
    (hf : Agree (fun f g => ∀ a b, R a b → S (f a) (g b)) f g) (h : Agree R x y) :
    Agree S (f <*> x) (g <*> y) := by
  rw [Agree] at hf h ⊢
  rw [value?_seq, value?_seq]
  generalize f.value? = f, g.value? = g at hf ⊢
  generalize x.value? = x, y.value? = y at h ⊢
  cases hf with
  | none => exact .none
  | some hf =>
    cases h with
    | none => exact .none
    | some h => exact .some (hf _ _ h)

/-- Where something stands is only said in issues. -/
theorem imp {S : α → β → Prop} (h : Agree R x y) (himp : ∀ a b, R a b → S a b) : Agree S x y := by
  rw [Agree] at h ⊢
  generalize x.value? = x, y.value? = y at h ⊢
  cases h with
  | none => exact .none
  | some h => exact .some (himp _ _ h)

theorem within (h : Agree R x y) (step step' : Step) :
    Agree R (x.within step) (y.within step') := by
  rwa [Agree, value?_within, value?_within]

theorem all {xs : List (Checked α)} {ys : List (Checked β)} (h : List.Forall₂ (Agree R) xs ys) :
    Agree (List.Forall₂ R) (all xs) (all ys) := by
  induction h with
  | nil => exact .some .nil
  | cons hxy _ ih => exact .seq (hxy.map fun _ _ h _ _ hrest => .cons h hrest) ih

theorem first {xs : List (Checked α)} {ys : List (Checked β)} (h : List.Forall₂ (Agree R) xs ys) :
    Agree R (first xs) (first ys) := by
  induction h with
  | nil => exact .none
  | @cons x y _ _ hxy _ ih =>
    rw [Agree] at hxy ih ⊢
    rw [value?_first_cons, value?_first_cons]
    generalize x.value? = x, y.value? = y at hxy ⊢
    cases hxy with
    | none => exact ih
    | some h => exact .some h

end Agree

end Checked

/-! ## Likenesses -/

/-- A relation between what stands in two places, where nothing may stand. -/
abbrev Likeness := Option Tree → Option Tree → Prop

namespace Likeness

/-- Two lists that are alike item by item. -/
def items (alike : Likeness) : Likeness := fun found found' =>
  ∃ items items', found.bind Tree.items? = some items ∧ found'.bind Tree.items? = some items' ∧
    List.Forall₂ (fun item item' => alike (some item) (some item')) items items'

/-- Two mappings with the same keys in the same order that are alike value by value. -/
def entries (alike : String → Likeness) : Likeness := fun found found' =>
  ∃ entries entries', found.bind Tree.entries? = some entries ∧
    found'.bind Tree.entries? = some entries' ∧
      List.Forall₂ (fun entry entry' =>
        entry.1 = entry'.1 ∧ alike entry.1 (some entry.2) (some entry'.2)) entries entries'

/-- Two mappings that are alike in the named fields, whatever else they hold. -/
def fields (alike : List (String × Likeness)) : Likeness := fun found found' =>
  ∃ entries entries', found.bind Tree.entries? = some entries ∧
    found'.bind Tree.entries? = some entries' ∧
      ∀ field ∈ alike, field.2 (entries.lookup field.1) (entries'.lookup field.1)

theorem items.imp {alike alike' : Likeness} {found found' : Option Tree}
    (h : alike.items found found')
    (himp : ∀ found found', alike found found' → alike' found found') :
    alike'.items found found' := by
  obtain ⟨items, items', hitems, hitems', hall⟩ := h
  exact ⟨items, items', hitems, hitems', hall.imp fun _ _ => himp _ _⟩

theorem entries.imp {alike alike' : String → Likeness} {found found' : Option Tree}
    (h : entries alike found found')
    (himp : ∀ key found found', alike key found found' → alike' key found found') :
    entries alike' found found' := by
  obtain ⟨entries, entries', hentries, hentries', hall⟩ := h
  exact ⟨entries, entries', hentries, hentries', hall.imp fun _ _ => .imp_right (himp _ _ _)⟩

/-- The same, or alike. -/
def orSame (alike : Likeness) : Likeness := fun found found' => found = found' ∨ alike found found'

end Likeness

namespace Check

variable {check : Check α} {R : α → α → Prop} {found found' : Option Tree}

/-- The check finds values that are related, or a value in neither place. -/
def Agrees (check : Check α) (R : α → α → Prop) : Likeness := fun found found' =>
  Checked.Agree R (check found) (check found')

theorem agrees_refl (h : ∀ a, R a a) : Agrees check R found found := .refl h _

theorem agrees_imp {S : α → α → Prop} (h : Agrees check R found found')
    (himp : ∀ a b, R a b → S a b) : Agrees check S found found' :=
  Checked.Agree.imp h himp

theorem agrees_mapped {f : α → β} {S : β → β → Prop} (h : Agrees check R found found')
    (hf : ∀ a b, R a b → S (f a) (f b)) : Agrees (mapped f check) S found found' :=
  Checked.Agree.map h hf

theorem agrees_either {checks : List (Check α)}
    (h : ∀ check ∈ checks, Agrees check R found found') :
    Agrees (either checks) R found found' := by
  refine Checked.Agree.first ?_
  rw [List.forall₂_map_left_iff, List.forall₂_map_right_iff, List.forall₂_same]
  exact h

/-! ## Collections -/

theorem agrees_object {read : List (String × Tree) → Checked α}
    {entries entries' : List (String × Tree)} (hentries : found.bind Tree.entries? = some entries)
    (hentries' : found'.bind Tree.entries? = some entries')
    (h : Checked.Agree R (read entries) (read entries')) :
    Agrees (object read) R found found' := by
  obtain ⟨tree, rfl, htree⟩ := Option.bind_eq_some_iff.mp hentries
  obtain ⟨tree', rfl, htree'⟩ := Option.bind_eq_some_iff.mp hentries'
  simpa only [Agrees, object, htree, htree'] using h

theorem agree_field {entries entries' : List (String × Tree)} {name : String}
    (h : Agrees check R (entries.lookup name) (entries'.lookup name)) :
    Checked.Agree R (field entries name check) (field entries' name check) :=
  Checked.Agree.within h _ _

/-- Items at the same positions. -/
theorem forall₂_zipIdx {S : Tree → Tree → Prop} {values values' : List Tree}
    (h : List.Forall₂ S values values') (start : Nat) :
    List.Forall₂ (fun item item' : Tree × Nat => S item.1 item'.1) (values.zipIdx start)
      (values'.zipIdx start) := by
  induction h generalizing start with
  | nil => exact .nil
  | cons hitem _ ih => exact .cons hitem (ih (start + 1))

/-- **Two lists agree item by item.** -/
theorem agrees_list (h : Likeness.items (Agrees check R) found found') :
    Agrees (list check) (List.Forall₂ R) found found' := by
  obtain ⟨values, values', hvalues, hvalues', hall⟩ := h
  have hitems : Checked.Agree (List.Forall₂ R) (items check values) (items check values') := by
    refine .all ?_
    rw [List.forall₂_map_left_iff, List.forall₂_map_right_iff]
    exact (forall₂_zipIdx hall 0).imp fun _ _ hitem => Checked.Agree.within hitem _ _
  simpa only [Agrees, list, hvalues, hvalues'] using hitems

/-- **Two records agree entry by entry**; what is read of the values under the reserved key does not
matter. -/
theorem agrees_record {R : String → α → α → Prop}
    (h : Likeness.entries (fun key => Agrees check fun a b => key ≠ reservedKey → R key a b)
      found found') :
    Agrees (record check)
      (List.Forall₂ fun value value' => value.1 = value'.1 ∧ R value.1 value.2 value'.2)
      found found' := by
  obtain ⟨entries, entries', hentries, hentries', hall⟩ := h
  refine agrees_object hentries hentries' ?_
  refine Checked.Agree.map (Checked.Agree.all (R := fun value value' : String × α =>
    value.1 = value'.1 ∧ (value.1 ≠ reservedKey → R value.1 value.2 value'.2)) ?_) ?_
  · rw [List.forall₂_map_left_iff, List.forall₂_map_right_iff]
    refine hall.imp fun entry entry' hentry => ?_
    exact (Checked.Agree.within hentry.2 _ _).map fun _ _ hvalue => ⟨hentry.1, hvalue⟩
  intro kept kept' hkept
  -- What is kept has another key than the reserved one.
  have hkeys : ∀ value ∈ kept.filter fun value => decide (value.1 ≠ reservedKey),
      value.1 ≠ reservedKey :=
    fun value hmem => of_decide_eq_true (List.mem_filter.mp hmem).2
  have hfilter := List.rel_filter (p := fun value => decide (value.1 ≠ reservedKey))
    (q := fun value => decide (value.1 ≠ reservedKey)) (fun _ _ hvalue => by simp [hvalue.1]) hkept
  exact ((List.forall₂_and_left _ _).mpr ⟨hkeys, hfilter⟩).imp fun _ _ hvalue =>
    ⟨hvalue.2.1, hvalue.2.2 hvalue.1⟩

/-! ## Values that may be missing -/

/-- Nothing stands in a place, or null. -/
def IsNothing (found : Option Tree) : Prop := found = none ∨ found = some .null

theorem not_isNothing_of_entries? {entries : List (String × Tree)}
    (h : found.bind Tree.entries? = some entries) : ¬ IsNothing found := by
  rintro (rfl | rfl) <;> cases h

theorem not_isNothing_of_items? {items : List Tree} (h : found.bind Tree.items? = some items) :
    ¬ IsNothing found := by
  rintro (rfl | rfl) <;> cases h

theorem nullish_of_not_isNothing (h : ¬ IsNothing found) :
    nullish check found = (check found).map some := by
  unfold nullish
  split
  · exact absurd (.inl rfl) h
  · exact absurd (.inr rfl) h
  · rfl

theorem agrees_nullish (h : Agrees check R found found') (hfound : ¬ IsNothing found)
    (hfound' : ¬ IsNothing found') : Agrees (nullish check) (Option.Rel R) found found' := by
  rw [Agrees, nullish_of_not_isNothing hfound, nullish_of_not_isNothing hfound']
  exact Checked.Agree.map h fun _ _ => .some

theorem agrees_nullish_eq (h : Agrees check Eq found found') (hfound : ¬ IsNothing found)
    (hfound' : ¬ IsNothing found') : Agrees (nullish check) Eq found found' := by
  refine agrees_imp (agrees_nullish h hfound hfound') fun value value' hvalue => ?_
  cases hvalue with
  | none => rfl
  | some h => exact congrArg some h

/-- What reads null like nothing agrees there. -/
theorem agrees_null (h : check (some .null) = check none) (hrefl : ∀ a, R a a) :
    Agrees check R none (some .null) := by
  rw [Agrees, h]
  exact .refl hrefl _

theorem agrees_orSame (hrefl : ∀ a, R a a) (h : (Agrees check R).orSame found found') :
    Agrees check R found found' := by
  obtain rfl | h := h
  · exact agrees_refl hrefl
  · exact h

end Check

end ComposeLint
