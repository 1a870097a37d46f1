import ComposeLint.Proofs.FieldByField
import ComposeLint.Proofs.Growth

/-!
# Adding to a service

An `Addition` is an entry of a list or a variable that a service is given besides what it has. It
changes one field, in which everything that was read is read again, so the service has all that it
had (`Manifest.readsAs_of_addsTo`). A manifest is then still accepted if the addition would be
accepted on its own, and nothing that was found before is missed
(`Document.evaluate_subperm_of_turns`).
-/

namespace ComposeLint

open Check Manifest

variable {α : Type}

namespace Manifest

variable {shape : ServiceShape} {name : String}

/-! ## More in a shape gives more in a service -/

/-- A shape that is reduced to a service with all that another is reduced to has. -/
def Extends (name : String) (shape more : ServiceShape) : Prop :=
  ∀ read, reduceService name shape = .ok read →
    ∃ service, reduceService name more = .ok service ∧ read.Within service

theorem mapM_append_singleton {ε β : Type} {f : α → Except ε β} {xs : List α} {ys : List β} {x : α}
    {y : β} (hxs : xs.mapM f = .ok ys) (hx : f x = .ok y) :
    (xs ++ [x]).mapM f = .ok (ys ++ [y]) := by
  rw [List.mapM_append, hxs, List.mapM_cons, hx]
  rfl

theorem extends_capability (capability : String) :
    Extends name shape { shape with capabilities := shape.capabilities ++ [capability] } := by
  intro read hread
  simp only [reduceService, bind_eq_ok_iff] at hread ⊢
  obtain ⟨setting, hsetting, mounts, hmounts, ports, hports, hread⟩ := hread
  cases hread
  refine ⟨_, ⟨setting, hsetting, mounts, hmounts, ports, hports, rfl⟩,
    .intro ?_ (.refl _) (.refl _) (.refl _)⟩
  rw [List.map_append, List.eraseDups_append]
  exact List.sublist_append_left _ _

theorem extends_volume {volume : VolumeShape} {read : Mount} (h : mount name volume = .ok read) :
    Extends name shape { shape with volumes := shape.volumes ++ [volume] } := by
  intro service hservice
  simp only [reduceService, bind_eq_ok_iff] at hservice ⊢
  obtain ⟨setting, hsetting, mounts, hmounts, ports, hports, hservice⟩ := hservice
  cases hservice
  exact ⟨_, ⟨setting, hsetting, _, mapM_append_singleton hmounts h, ports, hports, rfl⟩,
    .intro (.refl _) (List.sublist_append_left _ _) (.refl _) (.refl _)⟩

theorem extends_port {port : PortShape} {read : PortBinding} (h : binding name port = .ok read) :
    Extends name shape { shape with ports := shape.ports ++ [port] } := by
  intro service hservice
  simp only [reduceService, bind_eq_ok_iff] at hservice ⊢
  obtain ⟨setting, hsetting, mounts, hmounts, ports, hports, hservice⟩ := hservice
  cases hservice
  exact ⟨_, ⟨setting, hsetting, mounts, hmounts, _, mapM_append_singleton hports h, rfl⟩,
    .intro (.refl _) (.refl _) (.refl _) (List.sublist_append_left _ _)⟩

theorem extends_environment {environment : Option EnvironmentShape}
    (h : (environmentOf shape.environment).entries.Subperm (environmentOf environment).entries) :
    Extends name shape { shape with environment } := by
  intro service hservice
  simp only [reduceService, bind_eq_ok_iff] at hservice ⊢
  obtain ⟨setting, hsetting, mounts, hmounts, ports, hports, hservice⟩ := hservice
  cases hservice
  exact ⟨_, ⟨setting, hsetting, mounts, hmounts, ports, hports, rfl⟩,
    .intro (.refl _) (.refl _) h (.refl _)⟩

variable {found : Option Tree} {entries : List (String × Tree)}

/-- **With a variable more an environment holds no less.** -/
theorem environment_extends {found' : Option Tree} {entries' : List (String × Tree)} {key : String}
    {value : Tree} {environment : Option EnvironmentShape}
    (h : nullish Manifest.environment found = .valid environment)
    (hentries : Tree.declared? found = some entries)
    (hentries' : Tree.declared? found' = some entries')
    (hperm : entries'.Perm ((key, value) :: entries))
    (hvalue : Accepts (orNull scalar) (fun _ => True) (some value)) :
    ∃ environment', nullish Manifest.environment found' = .valid environment' ∧
      (environmentOf environment).entries.Subperm (environmentOf environment').entries := by
  obtain ⟨haccepts, kept, hkept, hkeptOf⟩ := keeps_of_environment hentries h
  have hne : entries' ≠ [] := by
    rintro rfl
    exact absurd hperm.symm.eq_nil (List.cons_ne_nil _ _)
  have hmapping : found'.bind Tree.entries? = some entries' :=
    Tree.entries?_of_declared? hentries' (by rintro rfl; exact hne (Option.some.inj hentries').symm)
      (by rintro rfl; exact hne (Option.some.inj hentries').symm)
  have haccepts' : ∀ entry ∈ entries', Accepts (orNull scalar) (fun _ => True) (some entry.2) := by
    intro entry hentry
    rcases List.mem_cons.mp (hperm.mem_iff.mp hentry) with rfl | hentry
    · exact hvalue
    · exact haccepts entry hentry
  obtain ⟨environment', henvironment'⟩ := exists_environment hmapping haccepts'
  obtain ⟨-, kept', hkept', hkeptOf'⟩ := keeps_of_environment hentries' henvironment'
  refine ⟨environment', henvironment', ?_⟩
  rw [hkeptOf, hkeptOf']
  refine map_subperm_map _ (List.subperm_of_subset hkept.nodup.of_map fun (name, read) hmem => ?_)
  obtain ⟨hne, tree, htree, hread⟩ := (hkept.mem_iff name read).mp hmem
  exact (hkept'.mem_iff name read).mpr
    ⟨hne, tree, hperm.mem_iff.mpr (List.mem_cons_of_mem _ htree), hread⟩

end Manifest

/-! ## Additions -/

/-- A list of a service that may be added to. -/
inductive ServiceList where
  | capabilities | volumes | ports

/-- The field that holds a list. -/
def ServiceList.field : ServiceList → String
  | capabilities => "cap_add"
  | volumes => "volumes"
  | ports => "ports"

/-- What a service may be given besides what it has. -/
inductive Addition where
  /-- An entry of a list. -/
  | item (list : ServiceList) (entry : Tree)
  /-- A variable of the environment. -/
  | assignment (key : String) (value : Tree)

namespace Addition

/-- The field that is added to. -/
def field : Addition → String
  | item list _ => list.field
  | assignment _ _ => "environment"

/-- A manifest with one service, which has one entry in one list. -/
def alone (name : String) (list : ServiceList) (entry : Tree) : Tree :=
  .mapping [("services", .mapping [(name, .mapping [(list.field, .list [entry])])])]

/-- Whether an addition may be made to a service of this name. An entry of a list is accepted if it
is where it stands alone; a variable may have any text, number, truth value or null. -/
def IsAccepted (name : String) : Addition → Prop
  | item list entry =>
    ∃ path document, Document.ofTree path (some (alone name list entry)) = .ok document
  | assignment _ value => value = .null ∨ value.isScalar = true ∧ value ≠ .number .notANumber

/-- The field before and after: an entry stands at the end of its list, and a variable is declared
besides the others. -/
def Adds (found found' : Option Tree) : Addition → Prop
  | item _ entry =>
    ∃ items, Tree.listed? found = some items ∧ Tree.listed? found' = some (items ++ [entry])
  | assignment key value =>
    ∃ entries entries', Tree.declared? found = some entries ∧
      Tree.declared? found' = some entries' ∧ entries'.Perm ((key, value) :: entries)

/-- The service before and after: no other field differs. -/
def AddsTo (addition : Addition) (tree tree' : Tree) : Prop :=
  ∃ fields fields', Tree.declared? (some tree) = some fields ∧
    Tree.declared? (some tree') = some fields' ∧
    addition.Adds (fields.lookup addition.field) (fields'.lookup addition.field) ∧
    ∀ key ≠ addition.field, fields'.lookup key = fields.lookup key

end Addition

namespace Manifest

variable {shape : ServiceShape} {name : String} {fields fields' : List (String × Tree)}

/-! ### Entries of lists -/

section Lists

variable {check : Check α} {found found' : Option Tree} {values : List α} {value : α} {entry : Tree}

theorem listOrNothing_append {items : List Tree} (h : listOrNothing check found = .valid values)
    (hitems : Tree.listed? found = some items)
    (hitems' : Tree.listed? found' = some (items ++ [entry]))
    (hentry : check (some entry) = .valid value) :
    listOrNothing check found' = .valid (values ++ [value]) := by
  obtain ⟨items', hlisted, hread⟩ := listOrNothing_eq_valid_iff.mp h
  obtain rfl : items = items' := Option.some.inj (hitems.symm.trans hlisted)
  refine listOrNothing_eq_valid_iff.mpr ⟨_, hitems', ?_⟩
  rw [List.map_append, List.map_append, hread, List.map_singleton, List.map_singleton, hentry]

theorem exists_of_listOrNothing_singleton
    (h : listOrNothing check (some (.list [entry])) = .valid values) :
    ∃ value, values = [value] ∧ check (some entry) = .valid value := by
  obtain ⟨items, hitems, hread⟩ := listOrNothing_eq_valid_iff.mp h
  cases hitems
  obtain ⟨value, rfl, hvalue⟩ := List.map_eq_singleton_iff.mp hread.symm
  exact ⟨value, rfl, hvalue.symm⟩

end Lists

/-- An entry that is accepted alone is read, in a service that has nothing else. -/
theorem exists_readFrom_of_alone {list : ServiceList} {entry : Tree}
    (h : (Addition.item list entry).IsAccepted name) :
    ∃ shape : ServiceShape, shape.ReadFrom [(list.field, .list [entry])] ∧
      (name ≠ reservedKey → ∃ read, reduceService name shape = .ok read) := by
  obtain ⟨path, document, hdocument⟩ := h
  have hservices : (Addition.alone name list entry).services? =
      some [(name, .mapping [(list.field, .list [entry])])] := by
    simp [Addition.alone, Tree.services?, Tree.child?, readingOrder_singleton]
  have htakes := ((Document.exists_ofTree_iff_takes hservices).mp ⟨document, hdocument⟩).1 _
    (List.mem_singleton_self _)
  obtain ⟨fields, hfields, shape, hread, hreduce⟩ := takes_iff.mp htakes
  have hdeclared : Tree.declared? (some (.mapping [(list.field, .list [entry])])) =
      some [(list.field, .list [entry])] :=
    congrArg some (readingOrder_singleton _)
  obtain rfl := Option.some.inj (hdeclared.symm.trans hfields)
  exact ⟨shape, hread, hreduce⟩

/-- Any plain value may be given to a variable. -/
theorem accepts_orNull_scalar {key : String} {value : Tree}
    (h : (Addition.assignment key value).IsAccepted name) :
    Accepts (orNull scalar) (fun _ => True) (some value) := by
  rcases h with rfl | ⟨hscalar, hnumber⟩
  · exact ⟨none, rfl, trivial⟩
  cases value with
  | text s => exact ⟨some (.text s), rfl, trivial⟩
  | bool b => exact ⟨some (.flag b), rfl, trivial⟩
  | number n =>
    cases n with
    | notANumber => exact absurd rfl hnumber
    | _ => exact ⟨_, rfl, trivial⟩
  | _ => cases hscalar

/-- **A service that is added to is read, with all that was read before.** -/
theorem exists_readFrom_of_adds {addition : Addition} (h : shape.ReadFrom fields)
    (haccepted : addition.IsAccepted name)
    (hadds : addition.Adds (fields.lookup addition.field) (fields'.lookup addition.field))
    (hothers : ∀ key ≠ addition.field, fields'.lookup key = fields.lookup key) :
    ∃ more : ServiceShape, more.ReadFrom fields' ∧
      (name ≠ reservedKey → Extends name shape more) := by
  cases addition with
  | item list entry =>
    obtain ⟨alone, halone, hreduce⟩ := exists_readFrom_of_alone haccepted
    rw [exists_reduceService_eq_ok_iff] at hreduce
    obtain ⟨items, hitems, hitems'⟩ := hadds
    cases list with
    | capabilities =>
      obtain ⟨capability, -, hentry⟩ := exists_of_listOrNothing_singleton (halone.get .capabilities)
      have hread := listOrNothing_append (h.get .capabilities) hitems hitems' hentry
      exact ⟨_, h.set .capabilities hothers hread, fun _ => extends_capability capability⟩
    | volumes =>
      obtain ⟨volume, hvolumes, hentry⟩ := exists_of_listOrNothing_singleton (halone.get .volumes)
      have hread := listOrNothing_append (h.get .volumes) hitems hitems' hentry
      refine ⟨_, h.set .volumes hothers hread, fun hname => ?_⟩
      have hmem : volume ∈ ServiceField.volumes.get alone := by simp [hvolumes]
      obtain ⟨mount, hmount⟩ := (hreduce hname).2.1 volume hmem
      exact extends_volume hmount
    | ports =>
      obtain ⟨port, hports, hentry⟩ := exists_of_listOrNothing_singleton (halone.get .ports)
      have hread := listOrNothing_append (h.get .ports) hitems hitems' hentry
      refine ⟨_, h.set .ports hothers hread, fun hname => ?_⟩
      have hmem : port ∈ ServiceField.ports.get alone := by simp [hports]
      obtain ⟨binding, hbinding⟩ := (hreduce hname).2.2 port hmem
      exact extends_port hbinding
  | assignment key value =>
    obtain ⟨entries, entries', hentries, hentries', hperm⟩ := hadds
    obtain ⟨environment, hread, hmore⟩ :=
      environment_extends (h.get .environment) hentries hentries' hperm
        (accepts_orNull_scalar haccepted)
    exact ⟨_, h.set .environment hothers hread, fun _ => extends_environment hmore⟩

variable {addition : Addition} {tree tree' : Tree}

/-- What is accepted as a service is accepted after an addition. -/
theorem takes_of_addsTo (h : Takes name tree) (haccepted : addition.IsAccepted name)
    (hadds : addition.AddsTo tree tree') : Takes name tree' := by
  obtain ⟨fields, fields', hfields, hfields', hadded, hothers⟩ := hadds
  obtain ⟨declared, hdeclared, shape, hshape, hread⟩ := takes_iff.mp h
  obtain rfl : fields = declared := Option.some.inj (hfields.symm.trans hdeclared)
  obtain ⟨more, hmore, hextends⟩ := exists_readFrom_of_adds hshape haccepted hadded hothers
  refine takes_iff.mpr ⟨fields', hfields', more, hmore, fun hname => ?_⟩
  obtain ⟨read, hread⟩ := hread hname
  obtain ⟨service, hservice, -⟩ := hextends hname read hread
  exact ⟨service, hservice⟩

/-- **What is read of a service is read after an addition.** -/
theorem readsAs_of_addsTo {read : Service} (h : ReadsAs name tree read) (hname : name ≠ reservedKey)
    (haccepted : addition.IsAccepted name) (hadds : addition.AddsTo tree tree') :
    ∃ service, ReadsAs name tree' service ∧ read.Within service := by
  obtain ⟨fields, fields', hfields, hfields', hadded, hothers⟩ := hadds
  obtain ⟨declared, hdeclared, shape, hshape, hread⟩ := readsAs_iff.mp h
  obtain rfl : fields = declared := Option.some.inj (hfields.symm.trans hdeclared)
  obtain ⟨more, hmore, hextends⟩ := exists_readFrom_of_adds hshape haccepted hadded hothers
  obtain ⟨service, hservice, hwithin⟩ := hextends hname read hread
  exact ⟨service, readsAs_iff.mpr ⟨fields', hfields', more, hmore, hservice⟩, hwithin⟩

end Manifest

/-! ## Manifests -/

/-- The manifest before and after: one service is added to, and no other differs. -/
structure Addition.Turns (addition : Addition) (name : String) (manifest more : Tree) : Prop where
  services : ∃ services services' tree tree', manifest.services? = some services ∧
    more.services? = some services' ∧ services.lookup name = some tree ∧
    services'.lookup name = some tree' ∧ addition.AddsTo tree tree' ∧
    ∀ key ≠ name, services'.lookup key = services.lookup key
  networks : more.child? (.key "networks") = manifest.child? (.key "networks")
  volumes : more.child? (.key "volumes") = manifest.child? (.key "volumes")

namespace Addition

variable {addition : Addition} {name : String} {manifest more : Tree}

/-- What stands under a key before and after: the same, or the service that is added to. -/
def Leaves (addition : Addition) (name key : String) (tree tree' : Tree) : Prop :=
  tree' = tree ∨ key = name ∧ addition.AddsTo tree tree'

/-- **Every service of the one manifest stands in the other**, the same or added to. -/
theorem Turns.leaves (h : addition.Turns name manifest more) :
    ∃ services services', manifest.services? = some services ∧ more.services? = some services' ∧
      (∀ key tree', (key, tree') ∈ services' →
        ∃ tree, (key, tree) ∈ services ∧ addition.Leaves name key tree tree') ∧
      ∀ key tree, (key, tree) ∈ services →
        ∃ tree', (key, tree') ∈ services' ∧ addition.Leaves name key tree tree' := by
  obtain ⟨services, services', tree, tree', hservices, hservices', htree, htree', hadds, hothers⟩ :=
    h.services
  have hlookup : ∀ key value, (key, value) ∈ services ↔ services.lookup key = some value :=
    fun _ _ => (lookup_eq_some_iff_mem (Manifest.nodup_of_bind_entries? hservices)).symm
  have hlookup' : ∀ key value, (key, value) ∈ services' ↔ services'.lookup key = some value :=
    fun _ _ => (lookup_eq_some_iff_mem (Manifest.nodup_of_bind_entries? hservices')).symm
  refine ⟨services, services', hservices, hservices', ?_⟩
  simp only [hlookup, hlookup']
  constructor <;> intro key value hvalue
  · by_cases hkey : key = name
    · subst hkey
      obtain rfl := Option.some.inj (htree'.symm.trans hvalue)
      exact ⟨tree, htree, .inr ⟨rfl, hadds⟩⟩
    · exact ⟨value, (hothers key hkey).symm.trans hvalue, .inl rfl⟩
  · by_cases hkey : key = name
    · subst hkey
      obtain rfl := Option.some.inj (htree.symm.trans hvalue)
      exact ⟨tree', htree', .inr ⟨rfl, hadds⟩⟩
    · exact ⟨value, (hothers key hkey).trans hvalue, .inl rfl⟩

end Addition

/-! ### Making an addition -/

/-- A mapping with one field set. Null has no fields yet. -/
def Tree.withField (tree : Tree) (name : String) (value : Tree) : Tree :=
  .mapping (Table.set name value ((Tree.declared? (some tree)).getD []))

/-- A field is found among what is declared. -/
theorem Tree.child?_key_eq {tree : Tree} {fields : List (String × Tree)}
    (h : Tree.declared? (some tree) = some fields) (key : String) :
    tree.child? (.key key) = fields.lookup key := by
  by_cases htree : tree = .null
  · subst htree
    cases h
    rfl
  · rw [declared?_of_ne_null htree] at h
    rw [child?, h, Option.bind_some]

/-- **Only the field that is set differs.** -/
theorem Tree.exists_entries?_withField {tree : Tree} {fields : List (String × Tree)}
    (h : Tree.declared? (some tree) = some fields) (name : String) (value : Tree) :
    ∃ fields', (tree.withField name value).entries? = some fields' ∧
      ∀ key, fields'.lookup key = if key = name then some value else fields.lookup key := by
  have hnodup := Table.nodup_set name value (Tree.nodup_declared? h)
  refine ⟨readingOrder (Table.set name value fields), ?_, fun key => ?_⟩
  · rw [withField, h, Option.getD_some, entries?_mapping]
  · rw [lookup_perm (nodup_readingOrder _) (readingOrder_perm hnodup), lookup_set]

namespace Addition

/-- Whether a field can be added to: it is a list, or a mapping without the variable, or there is
none. -/
def Fits (found : Option Tree) : Addition → Prop
  | item _ _ => (Tree.listed? found).isSome
  | assignment key _ => ∃ entries, Tree.declared? found = some entries ∧ key ∉ entries.map Prod.fst

/-- The field with what is added. -/
def joined (found : Option Tree) : Addition → Tree
  | item _ entry => .list ((Tree.listed? found).getD [] ++ [entry])
  | assignment key value => .mapping ((Tree.declared? found).getD [] ++ [(key, value)])

theorem adds_joined {addition : Addition} {found : Option Tree} (h : addition.Fits found) :
    addition.Adds found (some (addition.joined found)) := by
  cases addition with
  | item list entry =>
    obtain ⟨items, hitems⟩ := Option.isSome_iff_exists.mp h
    refine ⟨items, hitems, ?_⟩
    rw [joined, hitems]
    rfl
  | assignment key value =>
    obtain ⟨entries, hentries, hfresh⟩ := h
    have hnodup : ((entries ++ [(key, value)]).map Prod.fst).Nodup := by
      rw [List.map_append, List.map_singleton, ← List.concat_eq_append]
      exact (Tree.nodup_declared? hentries).concat hfresh
    refine ⟨entries, readingOrder (entries ++ [(key, value)]), hentries, ?_, ?_⟩
    · rw [joined, hentries]
      rfl
    · exact (readingOrder_perm hnodup).trans List.perm_append_comm

/-- The manifest with an addition to the service of a name. -/
def into (addition : Addition) (name : String) (manifest : Tree) : Tree :=
  let services := (manifest.child? (.key "services")).getD .null
  let service := (services.child? (.key name)).getD .null
  manifest.withField "services" <| services.withField name <|
    service.withField addition.field <| addition.joined (service.child? (.key addition.field))

/-- **An addition can be made to every service that is declared**, if its field fits. -/
theorem turns_into {addition : Addition} {name : String} {manifest tree : Tree}
    {services fields : List (String × Tree)} (hservices : manifest.services? = some services)
    (hname : services.lookup name = some tree) (hfields : Tree.declared? (some tree) = some fields)
    (hfits : addition.Fits (fields.lookup addition.field)) :
    addition.Turns name manifest (addition.into name manifest) := by
  obtain ⟨found, hfound, hentries⟩ := Option.bind_eq_some_iff.mp hservices
  obtain ⟨declared, hdeclared, hlookup⟩ := Option.bind_eq_some_iff.mp hfound
  have hservice : found.child? (.key name) = some tree := by rw [Tree.child?, hentries]; exact hname
  rw [into, hfound, Option.getD_some, hservice, Option.getD_some, Tree.child?_key_eq hfields]
  obtain ⟨fields', hfields', hfield⟩ := Tree.exists_entries?_withField hfields addition.field
    (addition.joined (fields.lookup addition.field))
  generalize hmore : tree.withField addition.field _ = more at hfields' ⊢
  obtain ⟨services', hservices', hservice'⟩ :=
    Tree.exists_entries?_withField (Tree.declared?_of_entries? hentries) name more
  generalize hall : found.withField name more = all at hservices' ⊢
  obtain ⟨declared', hdeclared', hmanifest⟩ :=
    Tree.exists_entries?_withField (Tree.declared?_of_entries? hdeclared) "services" all
  have hchild : ∀ key, (manifest.withField "services" all).child? (.key key) =
      if key = "services" then some all else manifest.child? (.key key) := fun key => by
    rw [Tree.child?, Tree.child?, hdeclared', hdeclared, Option.bind_some, Option.bind_some,
      hmanifest]
  refine ⟨⟨services, services', tree, more, hservices, ?_, hname, ?_,
    ⟨fields, fields', hfields, Tree.declared?_of_entries? hfields', ?_, fun key hkey => ?_⟩,
    fun key hkey => ?_⟩, ?_, ?_⟩
  · rw [Tree.services?, hchild, if_pos rfl]
    exact hservices'
  · rw [hservice', if_pos rfl]
  · rw [hfield, if_pos rfl]
    exact adds_joined hfits
  · rw [hfield, if_neg hkey]
  · rw [hservice', if_neg hkey]
  · rw [hchild, if_neg (by decide)]
  · rw [hchild, if_neg (by decide)]

theorem fits_item {shape : ServiceShape} {fields : List (String × Tree)}
    (h : shape.ReadFrom fields) (list : ServiceList) (entry : Tree) :
    (item list entry).Fits (fields.lookup list.field) := by
  have hlisted : ∀ {α : Type} {check : Check α} {values : List α} {found : Option Tree},
      listOrNothing check found = .valid values → (Tree.listed? found).isSome := by
    intro α check values found hread
    obtain ⟨items, hitems, -⟩ := listOrNothing_eq_valid_iff.mp hread
    exact Option.isSome_iff_exists.mpr ⟨items, hitems⟩
  cases list with
  | capabilities => exact hlisted (h.get .capabilities)
  | volumes => exact hlisted (h.get .volumes)
  | ports => exact hlisted (h.get .ports)

/-- **In an accepted manifest an entry can be added to each list of a service.** -/
theorem turns_into_of_ofTree {path name : String} {manifest tree : Tree} {document : Document}
    {services : List (String × Tree)} (h : Document.ofTree path (some manifest) = .ok document)
    (hservices : manifest.services? = some services) (hname : services.lookup name = some tree)
    (list : ServiceList) (entry : Tree) :
    (item list entry).Turns name manifest ((item list entry).into name manifest) := by
  obtain ⟨htakes, -⟩ := (Document.exists_ofTree_iff_takes hservices).mp ⟨document, h⟩
  have hmem := (lookup_eq_some_iff_mem (Manifest.nodup_of_bind_entries? hservices)).mp hname
  obtain ⟨fields, hfields, shape, hread, -⟩ := takes_iff.mp (htakes _ hmem)
  exact turns_into hservices hname hfields (fits_item hread list entry)

end Addition

namespace Document

variable {addition : Addition} {path name : String} {manifest more : Tree}
  {document document' : Document}

/-- **A manifest is still accepted.** -/
theorem exists_ofTree_of_turns (h : ofTree path (some manifest) = .ok document)
    (haccepted : addition.IsAccepted name) (hturns : addition.Turns name manifest more) :
    ∃ document', ofTree path (some more) = .ok document' := by
  obtain ⟨services, services', hservices, hservices', hbefore, -⟩ := hturns.leaves
  obtain ⟨htakes, hrest⟩ := (exists_ofTree_iff_takes hservices).mp ⟨document, h⟩
  rw [exists_ofTree_iff_takes hservices', hturns.networks, hturns.volumes]
  refine ⟨fun (key, tree') hentry => ?_, hrest⟩
  obtain ⟨tree, htree, rfl | ⟨rfl, hadds⟩⟩ := hbefore key tree' hentry
  · exact htakes _ htree
  · have htaken : Manifest.Takes key tree := htakes (key, tree) htree
    exact Manifest.takes_of_addsTo htaken haccepted hadds

/-- **Its document has everything that it had.** -/
theorem within_of_turns (h : ofTree path (some manifest) = .ok document)
    (h' : ofTree path (some more) = .ok document') (haccepted : addition.IsAccepted name)
    (hturns : addition.Turns name manifest more) : Engine.Within document document' := by
  obtain ⟨services, services', hservices, hservices', -, hafter⟩ := hturns.leaves
  obtain ⟨hpath, hread⟩ := readFrom_of_ofTree hservices h
  obtain ⟨hpath', hread'⟩ := readFrom_of_ofTree hservices' h'
  rw [hturns.networks, hturns.volumes] at hread'
  refine ⟨hpath'.trans hpath.symm, (hread.others_eq hread').1, fun (key, service) hentry => ?_⟩
  obtain ⟨hkey, tree, htree, hservice⟩ := (hread.mem_services_iff key service).mp hentry
  simp only [hread'.mem_services_iff]
  obtain ⟨tree', htree', rfl | ⟨rfl, hadds⟩⟩ := hafter key tree htree
  · exact ⟨service, ⟨hkey, tree', htree', hservice⟩, .refl service⟩
  · obtain ⟨service', hservice', hwithin⟩ :=
      Manifest.readsAs_of_addsTo hservice hkey haccepted hadds
    exact ⟨service', ⟨hkey, tree', htree', hservice'⟩, hwithin⟩

/-- **Adding risk never removes a finding.** When a service of an accepted manifest is given an
entry of a list that would be accepted on its own, or a variable with a plain value, the manifest is
still accepted, and any rules of the catalog find in it all that they found before, as often as they
did. -/
theorem evaluate_subperm_of_turns (h : ofTree path (some manifest) = .ok document)
    (haccepted : addition.IsAccepted name) (hturns : addition.Turns name manifest more) :
    ∃ document', ofTree path (some more) = .ok document' ∧
      ∀ engine : Engine, engine.rules ⊆ Rule.allRules →
        (engine.evaluate document).Subperm (engine.evaluate document') := by
  obtain ⟨document', h'⟩ := exists_ofTree_of_turns h haccepted hturns
  exact ⟨document', h', fun engine hrules =>
    Engine.evaluate_subperm hrules (within_of_turns h h' haccepted hturns)⟩

/-- A manifest with a service that mounts the socket of the host. -/
def socketStack : Tree :=
  .mapping [("services", .mapping
    [("web", .mapping [("volumes", .list [.text "/var/run/docker.sock:/run/docker.sock"])])])]

/-- A port that is published on every interface. -/
def shellPort : Addition := .item .ports (.text "22:22")

/-- Another port of the service is reported besides its mount. -/
theorem evaluate_subperm_of_turns_socketStack :
    ∃ document document', ofTree "compose.yml" (some socketStack) = .ok document ∧
      ofTree "compose.yml" (some (shellPort.into "web" socketStack)) = .ok document' ∧
      ((Engine.selected true .standard).evaluate document).Subperm
        ((Engine.selected true .standard).evaluate document') ∧
      ((Engine.selected true .standard).evaluate document).countP (·.ruleId = "exposed-ports") = 0 ∧
      ((Engine.selected true .standard).evaluate document').countP (·.ruleId = "exposed-ports") =
        2 := by
  have hread : ofTree "compose.yml" (some socketStack) = .ok _ := rfl
  have haccepted : shellPort.IsAccepted "web" := ⟨"compose.yml", _, rfl⟩
  have hturns : shellPort.Turns "web" socketStack (shellPort.into "web" socketStack) :=
    Addition.turns_into_of_ofTree hread rfl rfl .ports _
  obtain ⟨document', hread', hmore⟩ :=
    evaluate_subperm_of_turns hread haccepted hturns
  have hreport : ((Engine.selected true .standard).evaluate document').countP
      (·.ruleId = "exposed-ports") = 2 := by
    cases hread'
    decide +kernel
  exact ⟨_, document', hread, hread', hmore _ (List.Subset.refl _), by decide +kernel, hreport⟩

end Document

end ComposeLint
