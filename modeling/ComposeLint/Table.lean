/-!
# Ordered tables

A `Table` maps names to values and remembers the order in which the names first came. Setting
a name that is present replaces its value in place, so a table built from a list of entries
keeps the first position and the last value of every name.

`readingOrder` is the order in which the entries of a mapping are read: names that are array
positions come first, by number, and all others follow in the order of their first appearance.
-/

namespace ComposeLint

/-- Entries with distinct names, in the order in which the names first came. -/
structure Table (α : Type) where
  entries : List (String × α)
  nodup : (entries.map Prod.fst).Nodup

namespace Table

variable {α : Type}

/-- The entries with `name` set to `value`: in place, or at the end when the name is new. -/
def set (name : String) (value : α) : List (String × α) → List (String × α)
  | [] => [(name, value)]
  | entry :: rest =>
    if entry.1 = name then (name, value) :: rest else entry :: set name value rest

theorem mem_names_set (name : String) (value : α) (entries : List (String × α)) (n : String) :
    n ∈ (set name value entries).map Prod.fst ↔ n = name ∨ n ∈ entries.map Prod.fst := by
  induction entries with
  | nil => simp [set]
  | cons entry rest ih =>
    unfold set
    split
    · next h => simp [h]
    · simp only [List.map_cons, List.mem_cons, ih]
      constructor
      · rintro (h | h | h) <;> simp [h]
      · rintro (h | h | h) <;> simp [h]

theorem nodup_set (name : String) (value : α) {entries : List (String × α)}
    (h : (entries.map Prod.fst).Nodup) : ((set name value entries).map Prod.fst).Nodup := by
  induction entries with
  | nil => simp [set]
  | cons entry rest ih =>
    unfold set
    split
    · next hn => simpa [hn] using h
    · next hn =>
      simp only [List.map_cons, List.nodup_cons] at h ⊢
      exact ⟨fun hm => ((mem_names_set name value rest entry.1).1 hm).elim hn h.1, ih h.2⟩

/-- The table without entries. -/
def empty : Table α := ⟨[], List.nodup_nil⟩

instance : Inhabited (Table α) := ⟨empty⟩

/-- The table with `name` set to `value`. -/
def insert (table : Table α) (name : String) (value : α) : Table α :=
  ⟨set name value table.entries, nodup_set name value table.nodup⟩

/-- The table that setting the entries one after the other gives. -/
def ofList (entries : List (String × α)) : Table α :=
  entries.foldl (fun table entry => table.insert entry.1 entry.2) empty

/-- The value of a name. -/
def get? (table : Table α) (name : String) : Option α := table.entries.lookup name

/-- The names, in order. -/
def names (table : Table α) : List String := table.entries.map Prod.fst

/-- The values, in order. -/
def values (table : Table α) : List α := table.entries.map Prod.snd

/-- The number of entries. -/
def size (table : Table α) : Nat := table.entries.length

end Table

/-! ## Reading order -/

/-- The largest array position. -/
def maxPosition : Nat := 4294967294

/-- The array position that a name is: decimal digits without a leading zero. -/
def position? (name : String) : Option Nat :=
  let cs := name.toList
  if cs.isEmpty || !cs.all Char.isDigit || (cs.length != 1 && cs.head? == some '0') then none
  else
    let n := cs.foldl (fun n c => 10 * n + (c.toNat - '0'.toNat)) 0
    if n ≤ maxPosition then some n else none

/-- Inserts an entry among entries that are ordered by their positions. -/
def insertByPosition {α : Type} (entry : Nat × String × α) :
    List (Nat × String × α) → List (Nat × String × α)
  | [] => [entry]
  | other :: rest =>
    if entry.1 ≤ other.1 then entry :: other :: rest
    else other :: insertByPosition entry rest

/-- The entries whose names are array positions, by number. -/
def positioned {α : Type} (entries : List (String × α)) : List (String × α) :=
  let found := entries.filterMap fun entry => (position? entry.1).map fun n => (n, entry)
  (found.foldr insertByPosition []).map Prod.snd

/-- The order in which the entries of a mapping are read. A repeated name keeps its first place
and has its last value. -/
def readingOrder {α : Type} (entries : List (String × α)) : List (String × α) :=
  let kept := (Table.ofList entries).entries
  positioned kept ++ kept.filter fun entry => (position? entry.1).isNone

end ComposeLint
