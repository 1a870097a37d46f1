import ComposeLint.Proofs.ReadingOrder

/-!
# What is repeated

Of a repeated item `List.eraseDups` keeps the first, so what is repeated later adds nothing
(`eraseDups_append_cons_of_mem`), and a table keeps the names of its entries in the order in which
they first came (`Table.names_ofList`). With the last value of each name (`lookup_ofList`) this says
all of a table: whatever looks at its entries looks at these names (`Table.map_fst_filter_entries`).
-/

namespace ComposeLint

variable {α : Type}

/-! ## First occurrences -/

section EraseDups

variable [BEq α] [LawfulBEq α]

theorem eraseDups_concat (xs : List α) (x : α) :
    (xs ++ [x]).eraseDups = if xs.contains x then xs.eraseDups else xs.eraseDups ++ [x] := by
  rw [List.eraseDups_append]
  cases hx : xs.contains x <;> simp_all [List.removeAll, List.eraseDups_cons]

theorem nodup_eraseDups (xs : List α) : xs.eraseDups.Nodup := by
  induction xs using List.reverseRecOn with
  | nil => exact .nil
  | append_singleton xs x ih =>
    rw [eraseDups_concat]
    split
    · exact ih
    · next hx =>
      have hfresh : x ∉ xs.eraseDups := fun hmem =>
        hx (List.contains_iff_mem.mpr (List.mem_eraseDups.mp hmem))
      rw [← List.concat_eq_append]
      exact ih.concat hfresh

/-- **What is repeated later adds nothing.** -/
theorem eraseDups_append_cons_of_mem {before : List α} {x : α} (h : x ∈ before)
    (after : List α) : (before ++ x :: after).eraseDups = (before ++ after).eraseDups := by
  have hremoved : (x :: after).removeAll before = after.removeAll before := by
    simp [List.removeAll, h]
  rw [List.eraseDups_append, List.eraseDups_append, hremoved]

/-- First occurrences are kept or left out as all the others. -/
theorem eraseDups_filter (p : α → Bool) (xs : List α) :
    (xs.filter p).eraseDups = xs.eraseDups.filter p := by
  induction xs using List.reverseRecOn with
  | nil => rfl
  | append_singleton xs x ih =>
    rw [List.filter_append, eraseDups_concat]
    by_cases hx : p x = true
    · have hmem : (xs.filter p).contains x = xs.contains x := by
        rw [Bool.eq_iff_iff, List.contains_iff_mem, List.contains_iff_mem, List.mem_filter,
          and_iff_left hx]
      rw [List.filter_singleton, hx, cond_true, eraseDups_concat, hmem, ih,
        apply_ite (List.filter p), List.filter_append, List.filter_singleton, hx, cond_true]
    · rw [List.filter_singleton, Bool.eq_false_iff.mpr hx, cond_false, List.append_nil, ih,
        apply_ite (List.filter p), List.filter_append, List.filter_singleton,
        Bool.eq_false_iff.mpr hx, cond_false, List.append_nil, ite_self]

end EraseDups

/-! ## Tables -/

namespace Table

theorem map_fst_set (name : String) (value : α) (entries : List (String × α)) :
    (set name value entries).map Prod.fst =
      if (entries.map Prod.fst).contains name then entries.map Prod.fst
      else entries.map Prod.fst ++ [name] := by
  induction entries with
  | nil => rfl
  | cons entry rest ih =>
    rw [set]
    by_cases hname : entry.1 = name
    · simp [hname]
    · rw [if_neg hname, List.map_cons, ih, List.map_cons, List.contains_cons,
        beq_eq_false_iff_ne.mpr (Ne.symm hname), Bool.false_or]
      split <;> rfl

/-- **The names of a table** are in the order in which they first came. -/
theorem names_ofList (entries : List (String × α)) :
    (ofList entries).names = (entries.map Prod.fst).eraseDups := by
  induction entries using List.reverseRecOn with
  | nil => rfl
  | append_singleton entries entry ih =>
    have hmem : (ofList entries).names.contains entry.1 =
        (entries.map Prod.fst).contains entry.1 := by
      rw [ih, Bool.eq_iff_iff, List.contains_iff_mem, List.contains_iff_mem, List.mem_eraseDups]
    rw [names, entries_ofList_concat, map_fst_set, List.map_append, List.map_singleton,
      eraseDups_concat, ← hmem, ← ih]
    rfl

/-- **Entries are judged by their names** and by the value of each name. -/
theorem map_fst_filter_entries (table : Table α) (p : String × α → Bool) :
    (table.entries.filter p).map Prod.fst =
      table.names.filter fun name => (table.get? name).any fun value => p (name, value) := by
  rw [names, List.filter_map]
  refine congrArg _ (List.filter_congr fun entry hentry => ?_)
  have hvalue : table.get? entry.1 = some entry.2 :=
    (lookup_eq_some_iff_mem table.nodup).mpr hentry
  rw [Function.comp_apply, hvalue, Option.any_some]

end Table

end ComposeLint
