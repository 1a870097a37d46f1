import ComposeLint.Proofs.Acceptance

/-!
# Replacing a scalar in a tree

`Tree.at?` follows a path into a tree and `Tree.replaced` puts another tree where the path leads.
Whether a demand on the tree still holds after a scalar is replaced by a text is settled where the
scalar stands: `Demand.SurvivesIff` is passed from a field, an entry or an item to the collection
around it, because everything beside the path stays as it is.
-/

namespace ComposeLint

namespace Tree

/-- A text, a number or a truth value. -/
def isScalar : Tree → Bool
  | .text _ | .number _ | .bool _ => true
  | _ => false

/-- What a step leads to. -/
def child? (tree : Tree) : Step → Option Tree
  | .key name => tree.entries?.bind (·.lookup name)
  | .index i => tree.items?.bind (·[i]?)

/-- What a path leads to. -/
def at? (tree : Tree) : List Step → Option Tree
  | [] => some tree
  | step :: path => (tree.child? step).bind fun child => child.at? path

/-- The tree with another one where a path leads. A ring on the path is opened first, and what
stands where it comes again is not replaced. -/
def replaced (tree : Tree) (path : List Step) (new : Tree) : Tree :=
  match path with
  | [] => new
  | .key name :: path =>
    match tree.entries? with
    | some entries =>
      .mapping <| entries.map fun entry =>
        (entry.1, if entry.1 = name then entry.2.replaced path new else entry.2)
    | none => tree
  | .index i :: path =>
    match tree.items? with
    | some items => .list (items.modify i (·.replaced path new))
    | none => tree

variable {tree new leaf child : Tree} {step : Step} {path : List Step}

/-! ## Beside the path -/

/-- **A replacement in a mapping changes one value.** -/
theorem entries?_replaced {entries : List (String × Tree)} (h : tree.entries? = some entries)
    (name : String) (path : List Step) (new : Tree) :
    ∃ entries', (tree.replaced (.key name :: path) new).entries? = some entries' ∧
      entries'.Perm (entries.map fun entry =>
        (entry.1, if entry.1 = name then entry.2.replaced path new else entry.2)) := by
  have hkeys : ((entries.map fun entry =>
      (entry.1, if entry.1 = name then entry.2.replaced path new else entry.2)).map
        Prod.fst).Nodup := by
    rw [List.map_map]
    exact nodup_entries? h
  refine ⟨_, ?_, readingOrder_perm hkeys⟩
  simp only [replaced, h, entries?_mapping]

/-- Every other value is still found. -/
theorem lookup_of_perm_replaced {entries entries' : List (String × Tree)} {name : String}
    (hnodup : (entries.map Prod.fst).Nodup)
    (hperm : entries'.Perm (entries.map fun entry =>
      (entry.1, if entry.1 = name then entry.2.replaced path new else entry.2))) (key : String) :
    entries'.lookup key =
      (entries.lookup key).map fun value =>
        if key = name then value.replaced path new else value := by
  have hkeys : (entries'.map Prod.fst).Nodup := by
    rw [(hperm.map Prod.fst).nodup_iff, List.map_map]
    exact hnodup
  rw [lookup_perm hkeys hperm]
  exact lookup_map_snd
    (fun key (value : Tree) => if key = name then value.replaced path new else value) entries key

theorem items?_replaced {items : List Tree} (h : tree.items? = some items) (i : Nat)
    (path : List Step) (new : Tree) :
    (tree.replaced (.index i :: path) new).items? =
      some (items.modify i (·.replaced path new)) := by
  simp only [replaced, h]
  rfl

/-- **The path leads to the same places as before**, one step at a time. -/
theorem child?_replaced (h : tree.child? step = some child) :
    (tree.replaced (step :: path) new).child? step = some (child.replaced path new) := by
  cases step with
  | key name =>
    obtain ⟨entries, hentries, hlookup⟩ := Option.bind_eq_some_iff.mp h
    obtain ⟨entries', hentries', hperm⟩ := entries?_replaced hentries name path new
    rw [child?, hentries', Option.bind_some,
      lookup_of_perm_replaced (nodup_entries? hentries) hperm, hlookup]
    simp
  | index i =>
    obtain ⟨items, hitems, hget⟩ := Option.bind_eq_some_iff.mp h
    rw [child?, items?_replaced hitems, Option.bind_some]
    simp [hget]

theorem at?_replaced {path : List Step} (h : tree.at? path = some child) :
    (tree.replaced path new).at? path = some new := by
  induction path generalizing tree with
  | nil => rfl
  | cons step path ih =>
    obtain ⟨next, hnext, hat⟩ := Option.bind_eq_some_iff.mp h
    rw [at?, child?_replaced hnext]
    exact ih hat

end Tree

namespace Demand

variable {demand demand' : Demand} {written name : String} {step : Step} {place : List Step}
  {verdict : Prop}

/-- Whether the demand still holds after the text has replaced a scalar at the place is
`verdict`. -/
def SurvivesIff (demand : Demand) (written : String) (place : List Step) (verdict : Prop) : Prop :=
  ∀ tree leaf : Tree, demand (some tree) → tree.at? place = some leaf → leaf.isScalar = true →
    (demand (some (tree.replaced place (.text written))) ↔ verdict)

namespace SurvivesIff

/-- At the scalar itself the text decides. -/
theorem leaf (h : demand (some (.text written)) ↔ verdict) :
    demand.SurvivesIff written [] verdict := fun _ _ _ _ _ => h

theorem taken (h : demand (some (.text written))) : demand.SurvivesIff written [] True :=
  leaf (iff_of_true h trivial)

theorem refused (h : ¬ demand (some (.text written))) : demand.SurvivesIff written [] False :=
  leaf (iff_of_false h id)

theorem congr (h : ∀ tree : Tree, demand (some tree) ↔ demand' (some tree))
    (hsurvives : demand'.SurvivesIff written place verdict) :
    demand.SurvivesIff written place verdict := by
  intro tree leaf hdemand hat hleaf
  rw [h]
  exact hsurvives tree leaf ((h _).mp hdemand) hat hleaf

theorem and (hsurvives : demand.SurvivesIff written place verdict)
    (hsurvives' : demand'.SurvivesIff written place True) :
    SurvivesIff (fun found => demand found ∧ demand' found) written place verdict := by
  intro tree leaf hdemand hat hleaf
  have hother := (hsurvives' tree leaf hdemand.2 hat hleaf).mpr trivial
  exact (and_iff_left hother).trans (hsurvives tree leaf hdemand.1 hat hleaf)

/-- Of two demands the one that fits no tree with such a member does not matter. -/
theorem or_right (hother : ∀ tree : Tree, demand (some tree) → tree.child? step = none)
    (hsurvives : demand'.SurvivesIff written (step :: place) verdict) :
    SurvivesIff (fun found => demand found ∨ demand' found) written (step :: place) verdict := by
  intro tree leaf hdemand hat hleaf
  obtain ⟨child, hchild, -⟩ := Option.bind_eq_some_iff.mp hat
  have hdemand' : demand' (some tree) := hdemand.resolve_left fun h => by
    rw [hother tree h] at hchild
    cases hchild
  rw [← hsurvives tree leaf hdemand' hat hleaf]
  refine or_iff_right fun h => ?_
  have hnone := hother _ h
  rw [Tree.child?_replaced hchild] at hnone
  cases hnone

theorem or_left (hother : ∀ tree : Tree, demand' (some tree) → tree.child? step = none)
    (hsurvives : demand.SurvivesIff written (step :: place) verdict) :
    SurvivesIff (fun found => demand found ∨ demand' found) written (step :: place) verdict :=
  congr (fun _ => or_comm) (or_right hother hsurvives)

/-- A scalar, and a collection with one in it, are not null. -/
theorem orNull (hsurvives : demand.SurvivesIff written place verdict) :
    demand.orNull.SurvivesIff written place verdict := by
  -- A path does not lead through null to a scalar, neither before nor after.
  have hnotNull : ∀ {tree leaf : Tree}, tree.at? place = some leaf → leaf.isScalar = true →
      tree ≠ .null := by
    rintro _ leaf hat hleaf rfl
    cases place with
    | nil => cases hat; cases hleaf
    | cons step place => cases step <;> cases hat
  intro tree leaf hdemand hat hleaf
  have hdemand' : demand (some tree) := by
    rcases hdemand with h | h | h
    · cases h
    · exact absurd (Option.some.inj h) (hnotNull hat hleaf)
    · exact h
  have hreplaced : tree.replaced place (.text written) ≠ .null :=
    hnotNull (Tree.at?_replaced hat) rfl
  rw [← hsurvives tree leaf hdemand' hat hleaf, Demand.orNull]
  simp [hreplaced]

/-- **A field survives as its value does.** -/
theorem fields {demands : List (String × Demand)} (hmem : (name, demand) ∈ demands)
    (hnodup : (demands.map Prod.fst).Nodup)
    (hsurvives : demand.SurvivesIff written place verdict) :
    (Demand.fields demands).SurvivesIff written (.key name :: place) verdict := by
  rintro tree leaf ⟨entries, hentries, hfields⟩ hat hleaf
  obtain ⟨child, hchild, hat⟩ := Option.bind_eq_some_iff.mp hat
  have hlookup : entries.lookup name = some child := by
    rw [Tree.child?, show tree.entries? = some entries from hentries] at hchild
    exact hchild
  obtain ⟨entries', hentries', hperm⟩ := Tree.entries?_replaced hentries name place (.text written)
  have hlookup' := Tree.lookup_of_perm_replaced (Tree.nodup_entries? hentries) hperm
  have hvalue := hsurvives child leaf (hlookup ▸ hfields _ hmem) hat hleaf
  rw [← hvalue]
  constructor
  · rintro ⟨found, hfound, hfields'⟩
    obtain rfl : entries' = found := Option.some.inj (hentries'.symm.trans hfound)
    simpa [hlookup', hlookup] using hfields' _ hmem
  -- Only the field on the path has changed.
  · intro hdemand
    refine ⟨entries', hentries', fun field hfield => ?_⟩
    rw [hlookup']
    by_cases hname : field.1 = name
    · obtain rfl : field = (name, demand) :=
        List.inj_on_of_nodup_map hnodup hfield hmem hname
      simpa [hlookup] using hdemand
    · simpa [hname] using hfields field hfield

/-- **A mapping survives as its entry does.** -/
theorem entries {demand : String → Demand}
    (hsurvives : (demand name).SurvivesIff written place verdict) :
    (Demand.entries demand).SurvivesIff written (.key name :: place) verdict := by
  rintro tree leaf ⟨entries, hentries, hall⟩ hat hleaf
  obtain ⟨child, hchild, hat⟩ := Option.bind_eq_some_iff.mp hat
  have hlookup : entries.lookup name = some child := by
    rw [Tree.child?, show tree.entries? = some entries from hentries] at hchild
    exact hchild
  have hmem := (lookup_eq_some_iff_mem (Tree.nodup_entries? hentries)).mp hlookup
  obtain ⟨entries', hentries', hperm⟩ := Tree.entries?_replaced hentries name place (.text written)
  rw [← hsurvives child leaf (hall _ hmem) hat hleaf]
  constructor
  · rintro ⟨found, hfound, hall'⟩
    obtain rfl : entries' = found := Option.some.inj (hentries'.symm.trans hfound)
    have hmem' : (name, child.replaced place (.text written)) ∈ entries' := by
      refine hperm.mem_iff.mpr (List.mem_map.mpr ⟨_, hmem, ?_⟩)
      simp
    exact hall' _ hmem'
  · intro hdemand
    refine ⟨entries', hentries', fun entry hentry => ?_⟩
    obtain ⟨before, hbefore, rfl⟩ := List.mem_map.mp (hperm.mem_iff.mp hentry)
    by_cases hname : before.1 = name
    · obtain rfl : before = (name, child) :=
        List.inj_on_of_nodup_map (Tree.nodup_entries? hentries) hbefore hmem hname
      simpa using hdemand
    · simpa [hname] using hall before hbefore

/-- **A list survives as its item does.** -/
theorem items {i : Nat} (hsurvives : demand.SurvivesIff written place verdict) :
    demand.items.SurvivesIff written (.index i :: place) verdict := by
  rintro tree leaf ⟨items, hitems, hall⟩ hat hleaf
  obtain ⟨child, hchild, hat⟩ := Option.bind_eq_some_iff.mp hat
  have hget : items[i]? = some child := by
    rw [Tree.child?, show tree.items? = some items from hitems] at hchild
    exact hchild
  have hitems' := Tree.items?_replaced hitems i place (.text written)
  rw [← hsurvives child leaf (hall _ (List.mem_of_getElem? hget)) hat hleaf]
  constructor
  · rintro ⟨found, hfound, hall'⟩
    obtain rfl := Option.some.inj (hitems'.symm.trans hfound)
    refine hall' _ (List.mem_of_getElem? (i := i) ?_)
    simp [hget]
  · intro hdemand
    refine ⟨_, hitems', fun item hitem => ?_⟩
    obtain ⟨j, hj⟩ := List.mem_iff_getElem?.mp hitem
    rw [List.getElem?_modify] at hj
    obtain ⟨before, hbefore, rfl⟩ := Option.map_eq_some_iff.mp hj
    by_cases hi : i = j
    · obtain rfl : child = before := by
        rw [← hi, hget] at hbefore
        exact Option.some.inj hbefore
      simpa [hi] using hdemand
    · simpa [hi] using hall before (List.mem_of_getElem? hbefore)

end SurvivesIff

end Demand

end ComposeLint
