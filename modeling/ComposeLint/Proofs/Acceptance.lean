import ComposeLint.Shape.Check
import ComposeLint.Proofs.ReadingOrder

/-!
# What a check accepts

`Check.Accepts` says that a check finds a value and that the value satisfies a demand. The lemmas
here turn the acceptance of a check that is put together from others into the acceptance of the
others, so that nothing later opens a check: an object is accepted field by field, a record entry
by entry, a list item by item (`accepts_object_iff`, `accepts_record_iff`, `accepts_list_iff`).
-/

namespace ComposeLint

variable {α β : Type}

namespace Checked

/-- The result is a value, and the value satisfies `P`. -/
def Meets (result : Checked α) (P : α → Prop) : Prop := ∃ value, result = .valid value ∧ P value

variable {P : α → Prop} {result : Checked α}

@[simp] theorem meets_valid {value : α} : (valid value).Meets P ↔ P value := by
  constructor
  · rintro ⟨_, ⟨rfl⟩, h⟩
    exact h
  · exact fun h => ⟨value, rfl, h⟩

@[simp] theorem not_meets_flawed {issues : List Issue} : ¬ (flawed issues : Checked α).Meets P := by
  rintro ⟨_, h, -⟩
  cases h

@[simp] theorem not_meets_mismatched {issues : List Issue} :
    ¬ (mismatched issues : Checked α).Meets P := by
  rintro ⟨_, h, -⟩
  cases h

theorem meets_eq_iff {value : α} :
    (result.Meets fun found => found = value) ↔ result = .valid value :=
  ⟨by rintro ⟨_, h, rfl⟩; exact h, fun h => ⟨value, h, rfl⟩⟩

/-! ## Parts side by side -/

@[simp] theorem meets_map {f : β → α} {result : Checked β} :
    (result.map f).Meets P ↔ result.Meets fun value => P (f value) := by
  cases result <;> simp [map]

@[simp] theorem meets_fmap {f : β → α} {result : Checked β} :
    (f <$> result).Meets P ↔ result.Meets fun value => P (f value) :=
  meets_map

@[simp] theorem meets_seq {f : Checked (β → α)} {result : Checked β} :
    (f <*> result).Meets P ↔ f.Meets fun g => result.Meets fun value => P (g value) := by
  change (apply f result).Meets P ↔ _
  cases f <;> cases result <;> simp [apply]

@[simp] theorem meets_within {step : Step} : (result.within step).Meets P ↔ result.Meets P := by
  cases result <;> simp [within]

theorem all_eq_valid_iff {results : List (Checked α)} {values : List α} :
    all results = .valid values ↔ results = values.map .valid := by
  induction results generalizing values with
  | nil => cases values <;> simp [all]
  | cons result rest ih =>
    constructor
    · intro h
      have hmeets := meets_eq_iff.mpr h
      rw [all] at hmeets
      obtain ⟨tail, hcons, hrest⟩ := (meets_seq (f := map List.cons result)).mp hmeets
      obtain ⟨head, hresult, rfl⟩ := meets_map.mp ⟨tail, hcons, rfl⟩
      obtain ⟨others, hothers, rfl⟩ := hrest
      rw [hresult, ih.mp hothers, List.map_cons]
    · intro h
      cases values with
      | nil => cases h
      | cons head others =>
        obtain ⟨rfl, hrest⟩ := List.cons.inj h
        rw [all, ih.mpr hrest]
        rfl

/-- All values satisfy a demand when each does. -/
theorem meets_all {results : List (Checked α)} :
    ((all results).Meets fun values => ∀ value ∈ values, P value) ↔
      ∀ result ∈ results, result.Meets P := by
  constructor
  · rintro ⟨values, hall, h⟩ result hresult
    rw [all_eq_valid_iff.mp hall] at hresult
    obtain ⟨value, hvalue, rfl⟩ := List.mem_map.mp hresult
    exact meets_valid.mpr (h value hvalue)
  · intro h
    induction results with
    | nil => exact ⟨[], rfl, by simp⟩
    | cons result rest ih =>
      rw [List.forall_mem_cons] at h
      obtain ⟨values, hvalues, hrest⟩ := ih h.2
      obtain ⟨value, rfl, hvalue⟩ := h.1
      refine ⟨value :: values, ?_, List.forall_mem_cons.mpr ⟨hvalue, hrest⟩⟩
      rw [all, hvalues]
      rfl

/-! ## Alternatives -/

@[simp] theorem not_meets_first_nil : ¬ (first ([] : List (Checked α))).Meets P :=
  not_meets_mismatched

/-- An alternative that is not valid is passed over. -/
theorem meets_first_of_not_valid {rest : List (Checked α)} (h : ¬ result.Meets fun _ => True) :
    (first (result :: rest)).Meets P ↔ (first rest).Meets P := by
  cases result with
  | valid value => exact absurd (meets_valid.mpr trivial) h
  | flawed issues =>
    simp only [first, List.find?_cons]
    split
    · exact Iff.rfl
    -- Without a valid alternative the first flawed one is left, or none.
    · split
      · next found hflawed =>
        have hfound := List.find?_some hflawed
        cases found <;> simp at hfound ⊢
      · simp
  | mismatched issues =>
    simp only [first, List.find?_cons]

/-- The first valid alternative counts, whatever the others are. -/
theorem meets_first_cons {rest : List (Checked α)} :
    (first (result :: rest)).Meets P ↔
      result.Meets P ∨ (¬ result.Meets fun _ => True) ∧ (first rest).Meets P := by
  cases result with
  | valid value => simp [first]
  | flawed issues => simp [meets_first_of_not_valid]
  | mismatched issues => simp [meets_first_of_not_valid]

end Checked

/-! ## Demands -/

/-- What is demanded of a place in a tree, where nothing may stand. -/
abbrev Demand := Option Tree → Prop

namespace Demand

/-- Nothing, or null, or what is demanded. -/
def orNull (demand : Demand) : Demand := fun found =>
  found = none ∨ found = some .null ∨ demand found

/-- A list, and what is demanded of its items. -/
def items (demand : Demand) : Demand := fun found =>
  ∃ items, found.bind Tree.items? = some items ∧ ∀ item ∈ items, demand (some item)

/-- A mapping, and what is demanded of each value under its key. -/
def entries (demand : String → Demand) : Demand := fun found =>
  ∃ entries, found.bind Tree.entries? = some entries ∧
    ∀ entry ∈ entries, demand entry.1 (some entry.2)

/-- A mapping, and what is demanded of the named fields. -/
def fields (demands : List (String × Demand)) : Demand := fun found =>
  ∃ entries, found.bind Tree.entries? = some entries ∧
    ∀ field ∈ demands, field.2 (entries.lookup field.1)

/-- A list is no mapping. -/
theorem items.not_entries {demand : Demand} {demand' : String → Demand} {found : Option Tree}
    (hitems : demand.items found) : ¬ Demand.entries demand' found := by
  rintro ⟨entries, hentries, -⟩
  obtain ⟨items, hitems, -⟩ := hitems
  cases found with
  | none => cases hitems
  | some tree =>
    rw [Option.bind_some, Tree.items?] at hitems
    rw [Option.bind_some, Tree.entries?] at hentries
    cases htree : tree.unrolled <;> simp [htree] at hitems hentries

end Demand

namespace Check

/-- The check finds a value, and the value satisfies `P`. -/
def Accepts (check : Check α) (P : α → Prop) : Demand := fun found => (check found).Meets P

variable {P : α → Prop} {check : Check α} {found : Option Tree}

@[simp] theorem accepts_mapped {f : β → α} {check : Check β} :
    Accepts (mapped f check) P found ↔ Accepts check (fun value => P (f value)) found :=
  Checked.meets_map

@[simp] theorem not_accepts_either_nil : ¬ Accepts (either []) P found :=
  Checked.not_meets_first_nil

theorem accepts_either_cons {checks : List (Check α)} :
    Accepts (either (check :: checks)) P found ↔
      Accepts check P found ∨
        (¬ Accepts check (fun _ => True) found) ∧ Accepts (either checks) P found :=
  Checked.meets_first_cons

/-- An alternative that excludes the others may be looked at on its own. -/
theorem accepts_either_cons_of_disjoint {checks : List (Check α)}
    (h : Accepts check (fun _ => True) found → ¬ Accepts (either checks) P found) :
    Accepts (either (check :: checks)) P found ↔
      Accepts check P found ∨ Accepts (either checks) P found := by
  rw [accepts_either_cons]
  exact or_congr_right (and_iff_right_of_imp fun hothers hvalid => h hvalid hothers)

theorem accepts_either_singleton : Accepts (either [check]) P found ↔ Accepts check P found := by
  rw [accepts_either_cons]
  exact or_iff_left fun h => not_accepts_either_nil h.2

theorem accepts_either_pair {check' : Check α}
    (h : Accepts check (fun _ => True) found → ¬ Accepts check' P found) :
    Accepts (either [check, check']) P found ↔ Accepts check P found ∨ Accepts check' P found := by
  rw [accepts_either_cons_of_disjoint, accepts_either_singleton]
  rwa [accepts_either_singleton]

/-! ## Scalars -/

theorem accepts_text_iff {P : String → Prop} :
    Accepts text P found ↔ ∃ s, found = some (.text s) ∧ P s := by
  constructor
  · intro h
    cases found with
    | none => exact absurd h Checked.not_meets_mismatched
    | some tree =>
      cases tree with
      | text s => exact ⟨s, rfl, Checked.meets_valid.mp h⟩
      | _ => exact absurd h Checked.not_meets_mismatched
  · rintro ⟨s, rfl, h⟩
    exact Checked.meets_valid.mpr h

theorem accepts_flag_iff {P : Bool → Prop} :
    Accepts flag P found ↔ ∃ b, found = some (.bool b) ∧ P b := by
  constructor
  · intro h
    cases found with
    | none => exact absurd h Checked.not_meets_mismatched
    | some tree =>
      cases tree with
      | bool b => exact ⟨b, rfl, Checked.meets_valid.mp h⟩
      | _ => exact absurd h Checked.not_meets_mismatched
  · rintro ⟨b, rfl, h⟩
    exact Checked.meets_valid.mpr h

theorem accepts_nothing_iff {P : Unit → Prop} :
    Accepts nothing P found ↔ found = some .null ∧ P () := by
  constructor
  · intro h
    cases found with
    | none => exact absurd h Checked.not_meets_mismatched
    | some tree =>
      cases tree with
      | null => exact ⟨rfl, Checked.meets_valid.mp h⟩
      | _ => exact absurd h Checked.not_meets_mismatched
  · rintro ⟨rfl, h⟩
    exact Checked.meets_valid.mpr h

/-- A whole number is a number. -/
theorem exists_number_of_accepts_whole {P : Number → Prop} (h : Accepts whole P found) :
    ∃ n, found = some (.number n) := by
  obtain ⟨value, hvalue, -⟩ := h
  cases found with
  | none => cases hvalue
  | some tree =>
    cases tree with
    | number n => exact ⟨n, rfl⟩
    | _ => cases hvalue

/-! ## Collections -/

/-- **A mapping is accepted by its entries.** -/
theorem accepts_object_iff {read : List (String × Tree) → Checked α} :
    Accepts (object read) P found ↔
      ∃ entries, found.bind Tree.entries? = some entries ∧ (read entries).Meets P := by
  cases found with
  | none => simp [Accepts, object, mismatch]
  | some tree =>
    rw [Accepts, object]
    cases hentries : tree.entries? <;> simp [hentries, mismatch]

/-- A text is no mapping. -/
theorem not_accepts_object_of_text {read : List (String × Tree) → Checked α}
    (h : Accepts text (fun _ => True) found) : ¬ Accepts (object read) P found := by
  obtain ⟨s, rfl, -⟩ := accepts_text_iff.mp h
  exact Checked.not_meets_mismatched

@[simp] theorem meets_field {entries : List (String × Tree)} {name : String} :
    (field entries name check).Meets P ↔ Accepts check P (entries.lookup name) :=
  Checked.meets_within

/-- A value that may be missing is accepted when it is missing, if its absence is. -/
theorem accepts_nullish_iff {P : Option α → Prop} (hnone : P none) :
    Accepts (nullish check) P found ↔ (Accepts check fun value => P (some value)).orNull found := by
  rw [Demand.orNull]
  cases found with
  | none => simpa [Accepts, nullish] using hnone
  | some tree =>
    cases tree <;> simp [Accepts, nullish, hnone]

/-- **A list is accepted item by item.** -/
theorem accepts_list_iff :
    Accepts (list check) (fun values => ∀ value ∈ values, P value) found ↔
      (Accepts check P).items found := by
  rw [Accepts, list, Demand.items]
  cases hitems : found.bind Tree.items? with
  | none => simp [mismatch]
  | some values =>
    simp only [items, Checked.meets_all, List.forall_mem_map, Option.some.injEq, exists_eq_left']
    constructor
    · intro h item hitem
      obtain ⟨i, hi⟩ := List.mem_iff_getElem?.mp hitem
      exact Checked.meets_within.mp (h (item, i) (List.mk_mem_zipIdx_iff_getElem?.mpr hi))
    · rintro h ⟨item, i⟩ hitem
      exact Checked.meets_within.mpr (h item (List.fst_mem_of_mem_zipIdx hitem))

theorem accepts_list_true_iff :
    Accepts (list check) (fun _ => True) found ↔ (Accepts check fun _ => True).items found := by
  simpa using accepts_list_iff (P := fun _ : α => True)

/-- One text, or a list, whatever is made of them. -/
theorem accepts_text_or_list_iff {f : String → β} {g : List α → β} :
    Accepts (either [mapped f text, mapped g (list check)]) (fun _ => True) found ↔
      Accepts text (fun _ => True) found ∨ (Accepts check fun _ => True).items found := by
  rw [accepts_either_pair, accepts_mapped, accepts_mapped, accepts_list_true_iff]
  intro htext hlist
  rw [accepts_mapped] at htext
  rw [accepts_mapped, accepts_list_true_iff] at hlist
  obtain ⟨s, rfl, -⟩ := accepts_text_iff.mp htext
  obtain ⟨items, hitems, -⟩ := hlist
  cases hitems

/-- **A record is accepted entry by entry**; of the value of the reserved key only the shape is
looked at. -/
theorem accepts_record_iff {P : String → α → Prop} :
    Accepts (record check) (fun values => ∀ value ∈ values, P value.1 value.2) found ↔
      Demand.entries (fun key => Accepts check fun value => key ≠ reservedKey → P key value)
        found := by
  rw [record, accepts_object_iff, Demand.entries]
  refine exists_congr fun entries => and_congr_right fun _ => ?_
  -- The reserved key is left out after the check, so a demand on what is kept says nothing of it.
  have hkept : ∀ values : List (String × α),
      (∀ value ∈ values.filter (·.1 ≠ reservedKey), P value.1 value.2) ↔
        ∀ value ∈ values, value.1 ≠ reservedKey → P value.1 value.2 := by
    simp [List.mem_filter]
  simp only [Checked.meets_map, hkept]
  rw [Checked.meets_all, List.forall_mem_map]
  exact forall₂_congr fun entry _ => by rw [Checked.meets_map, Checked.meets_within]; rfl

theorem accepts_record_true_iff :
    Accepts (record check) (fun _ => True) found ↔
      Demand.entries (fun _ => Accepts check fun _ => True) found := by
  simpa using accepts_record_iff (P := fun _ (_ : α) => True)

theorem accepts_anyRecord_iff :
    Accepts anyRecord (fun _ => True) found ↔ Demand.entries (fun _ _ => True) found := by
  rw [anyRecord, accepts_record_true_iff]
  simp [Demand.entries, Accepts]

end Check
end ComposeLint
