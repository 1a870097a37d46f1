import ComposeLint.Tree.Circle
import Mathlib.Data.List.Induction
import Mathlib.Data.List.Nodup
import Mathlib.Data.List.Perm.Basic

/-!
# Entries and their order

A mapping is read through `Tree.entries?`, which resolves repeated keys and puts positions first.
Whatever the order, the entries that are read have distinct keys (`nodup_entries?`), and of
entries with distinct keys none is lost and none is added (`readingOrder_perm`). So the value of a
key does not depend on the order, and a table that is made from entries with distinct names
has exactly these entries (`Table.entries_ofList`).
-/

namespace ComposeLint

variable {α β : Type}

/-! ## Tables -/

namespace Table

theorem set_of_notMem {name : String} {value : α} {entries : List (String × α)}
    (h : name ∉ entries.map Prod.fst) : set name value entries = entries ++ [(name, value)] := by
  induction entries with
  | nil => rfl
  | cons entry rest ih =>
    rw [List.map_cons, List.mem_cons, not_or] at h
    rw [set, if_neg (Ne.symm h.1), ih h.2, List.cons_append]

/-- **Distinct names make a table of exactly the given entries.** -/
theorem entries_ofList {entries : List (String × α)} (h : (entries.map Prod.fst).Nodup) :
    (ofList entries).entries = entries := by
  -- The table grows at its end as long as the entries to come have other names.
  have key : ∀ (rest : List (String × α)) (table : Table α),
      ((table.entries ++ rest).map Prod.fst).Nodup →
      (rest.foldl (fun table entry => table.insert entry.1 entry.2) table).entries =
        table.entries ++ rest := by
    intro rest
    induction rest with
    | nil => intro table _; simp
    | cons entry rest ih =>
      intro table hnodup
      have hfresh : entry.1 ∉ table.entries.map Prod.fst := by
        rw [List.map_append, List.map_cons, List.nodup_middle, List.nodup_cons] at hnodup
        exact fun hmem => hnodup.1 (List.mem_append_left _ hmem)
      have hinsert : (table.insert entry.1 entry.2).entries = table.entries ++ [entry] :=
        set_of_notMem hfresh
      rw [List.foldl_cons, ih, hinsert, List.append_assoc, List.singleton_append]
      rwa [hinsert, List.append_assoc, List.singleton_append]
  exact key entries empty h

end Table

/-! ## The value of a key -/

theorem lookup_cons_eq_ite {κ : Type} [BEq κ] [LawfulBEq κ] [DecidableEq κ] (key name : κ)
    (value : α) (rest : List (κ × α)) :
    ((name, value) :: rest).lookup key = if key = name then some value else rest.lookup key := by
  by_cases hkey : key = name
  · simp [hkey]
  · rw [List.lookup_cons, beq_eq_false_iff_ne.mpr hkey, if_neg hkey]

/-- Of distinct keys, each has the one value that stands beside it. -/
theorem lookup_eq_some_iff_mem {entries : List (String × α)} (h : (entries.map Prod.fst).Nodup)
    {key : String} {value : α} : entries.lookup key = some value ↔ (key, value) ∈ entries := by
  rw [List.lookup_eq_some_iff]
  constructor
  · rintro ⟨before, after, rfl, -⟩
    simp
  · intro hmem
    obtain ⟨before, after, rfl⟩ := List.append_of_mem hmem
    rw [List.map_append, List.map_cons, List.nodup_middle, List.nodup_cons] at h
    refine ⟨before, after, rfl, fun entry hentry => bne_iff_ne.mpr fun heq => h.1 ?_⟩
    have hkey : entry.1 ∈ before.map Prod.fst := List.mem_map_of_mem hentry
    exact List.mem_append_left _ (heq ▸ hkey)

/-- **The value of a key does not depend on the order.** -/
theorem lookup_perm {entries entries' : List (String × α)} (h : (entries.map Prod.fst).Nodup)
    (hperm : entries.Perm entries') (key : String) : entries.lookup key = entries'.lookup key := by
  have h' : (entries'.map Prod.fst).Nodup := (hperm.map Prod.fst).nodup_iff.mp h
  refine Option.ext fun value => ?_
  rw [lookup_eq_some_iff_mem h, lookup_eq_some_iff_mem h', hperm.mem_iff]

/-- Changing the values by their keys changes what is found. -/
theorem lookup_map_snd (f : String → α → β) (entries : List (String × α)) (key : String) :
    (entries.map fun entry => (entry.1, f entry.1 entry.2)).lookup key =
      (entries.lookup key).map (f key) := by
  induction entries with
  | nil => rfl
  | cons entry rest ih =>
    obtain ⟨name, value⟩ := entry
    by_cases hkey : key = name
    · subst hkey
      simp
    · have hbeq : (key == name) = false := beq_eq_false_iff_ne.mpr hkey
      simp [List.lookup_cons, hbeq, ih]

/-! ## Reading order -/

theorem insertByPosition_perm (entry : Nat × String × α) (entries : List (Nat × String × α)) :
    (insertByPosition entry entries).Perm (entry :: entries) := by
  induction entries with
  | nil => exact .refl _
  | cons other rest ih =>
    rw [insertByPosition]
    split
    · exact .refl _
    · exact (ih.cons other).trans (.swap ..)

theorem foldr_insertByPosition_perm (entries : List (Nat × String × α)) :
    (entries.foldr insertByPosition []).Perm entries := by
  induction entries with
  | nil => exact .refl _
  | cons entry rest ih => exact (insertByPosition_perm entry _).trans (ih.cons entry)

/-- Of the entries at positions none is lost. -/
theorem positioned_perm (entries : List (String × α)) :
    (positioned entries).Perm (entries.filter fun entry => (position? entry.1).isSome) := by
  have hfound : (entries.filterMap fun entry =>
      (position? entry.1).map fun n => (n, entry)).map Prod.snd =
        entries.filter fun entry => (position? entry.1).isSome := by
    induction entries with
    | nil => rfl
    | cons entry rest ih =>
      cases hposition : position? entry.1 <;> simp [hposition, ih]
  rw [← hfound]
  exact (foldr_insertByPosition_perm _).map Prod.snd

/-- **Reading in order loses nothing and adds nothing.** -/
theorem readingOrder_perm {entries : List (String × α)} (h : (entries.map Prod.fst).Nodup) :
    (readingOrder entries).Perm entries := by
  have hsplit := List.filter_append_perm (fun entry => (position? entry.1).isSome) entries
  have hnone : (entries.filter fun entry => (position? entry.1).isNone) =
      entries.filter fun entry => !(position? entry.1).isSome :=
    List.filter_congr fun entry _ => by rw [Option.not_isSome]
  rw [readingOrder, Table.entries_ofList h, hnone]
  exact ((positioned_perm entries).append_right _).trans hsplit

theorem readingOrder_singleton (entry : String × α) : readingOrder [entry] = [entry] :=
  List.perm_singleton.mp (readingOrder_perm (by simp))

theorem nodup_readingOrder (entries : List (String × α)) :
    ((readingOrder entries).map Prod.fst).Nodup := by
  have hnodup := (Table.ofList entries).nodup
  have hread : readingOrder (Table.ofList entries).entries = readingOrder entries := by
    rw [readingOrder, readingOrder, Table.entries_ofList hnodup]
  rw [← hread]
  exact ((readingOrder_perm hnodup).map Prod.fst).nodup_iff.mpr hnodup

/-- Names that are no positions are read in the order in which they stand. -/
theorem readingOrder_eq_self {entries : List (String × α)} (h : (entries.map Prod.fst).Nodup)
    (hnone : ∀ entry ∈ entries, position? entry.1 = none) : readingOrder entries = entries := by
  have hpositioned : positioned entries = [] := by
    refine List.Perm.eq_nil ((positioned_perm entries).trans ?_)
    rw [List.filter_eq_nil_iff.mpr fun entry hentry => by simp [hnone entry hentry]]
  rw [readingOrder, Table.entries_ofList h, hpositioned, List.nil_append]
  exact List.filter_eq_self.mpr fun entry hentry => by rw [hnone entry hentry]; rfl

/-! ## Repeated names -/

/-- Setting a name changes what is found under it, and nothing else. -/
theorem lookup_set (name : String) (value : α) (entries : List (String × α)) (key : String) :
    (Table.set name value entries).lookup key =
      if key = name then some value else entries.lookup key := by
  induction entries with
  | nil => rw [Table.set, lookup_cons_eq_ite]
  | cons entry rest ih =>
    obtain ⟨other, held⟩ := entry
    rw [Table.set]
    by_cases hother : other = name
    · subst hother
      rw [if_pos rfl, lookup_cons_eq_ite, lookup_cons_eq_ite]
      split <;> rfl
    · rw [if_neg hother, lookup_cons_eq_ite, lookup_cons_eq_ite, ih]
      by_cases hkey : key = other
      · simp [hkey, hother]
      · simp [hkey]

/-- The last entry is set in the table of those before it. -/
theorem entries_ofList_concat (entries : List (String × α)) (entry : String × α) :
    (Table.ofList (entries ++ [entry])).entries =
      Table.set entry.1 entry.2 (Table.ofList entries).entries := by
  rw [Table.ofList, List.foldl_append]
  rfl

/-- **A table holds the last value of a name.** -/
theorem lookup_ofList (entries : List (String × α)) (key : String) :
    (Table.ofList entries).entries.lookup key = entries.reverse.lookup key := by
  induction entries using List.reverseRecOn with
  | nil => rfl
  | append_singleton entries entry ih =>
    rw [entries_ofList_concat, lookup_set, ih, List.reverse_append, List.reverse_singleton,
      List.singleton_append, lookup_cons_eq_ite]

/-- **What is read of a name is its last value.** -/
theorem lookup_readingOrder (entries : List (String × α)) (key : String) :
    (readingOrder entries).lookup key = entries.reverse.lookup key := by
  have hnodup := (Table.ofList entries).nodup
  have hread : readingOrder entries = readingOrder (Table.ofList entries).entries := by
    rw [readingOrder, readingOrder, Table.entries_ofList hnodup]
  rw [hread, lookup_perm (nodup_readingOrder _) (readingOrder_perm hnodup), lookup_ofList]

/-! ## Trees -/

namespace Tree

/-- Different numbers have different texts. -/
theorem toString_nat_injective : Function.Injective (toString : Nat → String) := by
  intro m n h
  have hdigits : Nat.toDigits 10 m = Nat.toDigits 10 n := by
    simpa [Nat.repr] using congrArg String.toList h
  rw [← Nat.ofDigitChars_ten_toDigits (n := m), hdigits, Nat.ofDigitChars_ten_toDigits]

theorem nodup_octetEntries (octets : List Nat) :
    ((octetEntries octets).map Prod.fst).Nodup := by
  have hkeys : (octetEntries octets).map Prod.fst = (List.range octets.length).map toString := by
    rw [octetEntries, List.map_map, List.range_eq_range', ← List.zipIdx_map_snd 0 octets,
      List.map_map]
    rfl
  rw [hkeys]
  exact List.nodup_range.map toString_nat_injective

/-- **The entries of a tree have distinct keys.** -/
theorem nodup_entries? {tree : Tree} {entries : List (String × Tree)}
    (h : tree.entries? = some entries) : (entries.map Prod.fst).Nodup := by
  rw [entries?] at h
  split at h
  · rw [← Option.some.inj h]
    exact nodup_readingOrder _
  · rw [← Option.some.inj h]
    exact nodup_octetEntries _
  · cases h

@[simp] theorem entries?_mapping (entries : List (String × Tree)) :
    (Tree.mapping entries).entries? = some (readingOrder entries) := rfl

/-! ## Circles -/

theorem circleInEntries?_eq_map (way : List Passage) (entries : List (String × Tree)) :
    circleInEntries? way entries =
      entries.map fun entry => (entry.1, circleFrom? way (.key entry.1) none entry.2) := by
  induction entries with
  | nil => rfl
  | cons entry rest ih =>
    rw [circleInEntries?, ih]
    rfl

/-- A mapping is without circles when all of its values are. -/
theorem circleFrom?_mapping_eq_none_iff {way : List Passage} {step : Entrance} {ring : Option Nat}
    {entries : List (String × Tree)} (h : (entries.map Prod.fst).Nodup) :
    circleFrom? way step ring (.mapping entries) = none ↔
      ∀ entry ∈ entries,
        circleFrom? (⟨step, false, ring⟩ :: way) (.key entry.1) none entry.2 = none := by
  have hkeys : ((circleInEntries? (⟨step, false, ring⟩ :: way) entries).map Prod.fst).Nodup := by
    rw [circleInEntries?_eq_map, List.map_map]
    exact h
  have hread := readingOrder_perm hkeys
  rw [circleFrom?, List.findSome?_eq_none_iff]
  constructor
  · intro hnone entry hentry
    refine hnone (entry.1, _) (hread.mem_iff.mpr ?_)
    rw [circleInEntries?_eq_map]
    exact List.mem_map_of_mem hentry
  · intro hnone found hfound
    have hmem := hread.mem_iff.mp hfound
    rw [circleInEntries?_eq_map] at hmem
    obtain ⟨entry, hentry, rfl⟩ := List.mem_map.mp hmem
    exact hnone entry hentry

end Tree

end ComposeLint
