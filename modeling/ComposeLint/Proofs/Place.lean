import ComposeLint.Proofs.Additions
import ComposeLint.Proofs.SameReading

/-!
# The places of a manifest

`Manifest.Place` names the mappings of a manifest whose fields are declared, by the path that leads
to them. What stands in a place of an accepted manifest is accepted there: a volume as a volume, and
a port as one that can be shown.
-/

namespace ComposeLint

open Check

theorem Tree.entries?_singleton (key : String) (child : Tree) :
    (Tree.mapping [(key, child)]).entries? = some [(key, child)] := by
  rw [Tree.entries?_mapping, readingOrder_singleton]

namespace Manifest

/-- A mapping of a manifest whose fields are declared. Volumes and ports are in the long form. -/
inductive Place where
  | root
  | service (name : String)
  | healthcheck (service : String)
  | volume (service : String) (i : Nat)
  | port (service : String) (i : Nat)
  | network (name : String)

/-- The path to a place. -/
def Place.path : Place → List Step
  | root => []
  | service name => [.key "services", .key name]
  | healthcheck name => [.key "services", .key name, .key "healthcheck"]
  | volume name i => [.key "services", .key name, .key "volumes", .index i]
  | port name i => [.key "services", .key name, .key "ports", .index i]
  | network name => [.key "networks", .key name]

variable {α : Type} {check : Check α} {values : List α} {i : Nat}

/-- **What stands in a list is one of its values.** -/
theorem exists_valid_of_child? {listed item : Tree}
    (h : listOrNothing check (some listed) = .valid values)
    (hitem : listed.child? (.index i) = some item) :
    ∃ value ∈ values, check (some item) = .valid value := by
  obtain ⟨items, hitems, hget⟩ := Option.bind_eq_some_iff.mp hitem
  have hnull : listed ≠ .null := by rintro rfl; cases hitems
  obtain ⟨items', hitems', hvalues⟩ := listOrNothing_eq_valid_iff.mp h
  rw [Tree.listed?_of_ne_null hnull, hitems] at hitems'
  obtain rfl : items = items' := Option.some.inj hitems'
  have hvalue : check (some item) ∈ values.map .valid :=
    hvalues ▸ List.mem_map_of_mem (List.mem_of_getElem? hget)
  obtain ⟨value, hmem, hvalid⟩ := List.mem_map.mp hvalue
  exact ⟨value, hmem, hvalid.symm⟩

/-- A port that is a binding can be shown. -/
theorem portShown_of_accepts {name : String} {found : Option Tree}
    (h : Accepts port (fun shape => ∃ b, binding name shape = .ok b) found) : portShown found := by
  intro entries hentries
  have haccepts : Accepts port (fun shape => True → ∃ b, binding name shape = .ok b) found := by
    simpa using h
  obtain (hwhole | htext) | ⟨entries', hentries', -, hcircle⟩ := accepts_port_iff.mp haccepts
  · obtain ⟨n, rfl⟩ := exists_number_of_accepts_whole hwhole
    cases hentries
  · obtain ⟨s, rfl, -⟩ := accepts_text_iff.mp htext
    cases hentries
  · obtain rfl : entries = entries' := Option.some.inj (hentries.symm.trans hentries')
    exact (circle?_shownEntries_eq_none_iff (nodup_of_bind_entries? hentries)).mpr
      fun entry hentry => hcircle entry hentry trivial

end Manifest

namespace Document

variable {path name : String} {i : Nat} {tree : Tree} {document : Document}

/-- **What stands in a list of a service is read with the service.** -/
theorem exists_listed_of_ofTree {field : String} {item : Tree}
    (h : ofTree path (some tree) = .ok document)
    (hitem : tree.at? [.key "services", .key name, .key field, .index i] = some item) :
    ∃ fields listed, fields.lookup field = some listed ∧ listed.child? (.index i) = some item ∧
      ∃ shape : ServiceShape, shape.ReadFrom fields ∧
        (name ≠ reservedKey → ∃ read, Manifest.reduceService name shape = .ok read) := by
  simp only [Tree.at?, Option.bind_eq_some_iff] at hitem
  obtain ⟨found, hfound, service, hservice, listed, hlisted, child, hchild, hitem⟩ := hitem
  obtain rfl : child = item := Option.some.inj hitem
  obtain ⟨services, hservices, hlookup⟩ := Option.bind_eq_some_iff.mp hservice
  have hread : tree.services? = some services := by rw [Tree.services?, hfound]; exact hservices
  obtain ⟨htakes, -⟩ := (exists_ofTree_iff_takes hread).mp ⟨document, h⟩
  have hmem := (lookup_eq_some_iff_mem (Tree.nodup_entries? hservices)).mp hlookup
  obtain ⟨fields, hfields, shape, hshape, hreduce⟩ := Manifest.takes_iff.mp (htakes _ hmem)
  rw [Tree.child?_key_eq hfields] at hlisted
  exact ⟨fields, listed, hlisted, hchild, shape, hshape, hreduce⟩

/-- **Every volume of an accepted manifest is accepted.** -/
theorem accepts_volume_of_ofTree {volume : Tree} (h : ofTree path (some tree) = .ok document)
    (hvolume : tree.at? (Manifest.Place.volume name i).path = some volume) :
    Accepts Manifest.volume (fun _ => True) (some volume) := by
  obtain ⟨fields, listed, hlisted, hitem, shape, hshape, -⟩ := exists_listed_of_ofTree h hvolume
  have hvolumes : Manifest.listOrNothing Manifest.volume (fields.lookup "volumes") =
      .valid shape.volumes := hshape.get .volumes
  rw [hlisted] at hvolumes
  obtain ⟨value, -, hvalue⟩ := Manifest.exists_valid_of_child? hvolumes hitem
  exact ⟨value, hvalue, trivial⟩

/-- **Every port of an accepted manifest can be shown.** -/
theorem portShown_of_ofTree {port : Tree} (h : ofTree path (some tree) = .ok document)
    (hname : name ≠ reservedKey) (hport : tree.at? (Manifest.Place.port name i).path = some port) :
    Manifest.portShown (some port) := by
  obtain ⟨fields, listed, hlisted, hitem, shape, hshape, hreduce⟩ :=
    exists_listed_of_ofTree h hport
  have hports : Manifest.listOrNothing Manifest.port (fields.lookup "ports") =
      .valid shape.ports := hshape.get .ports
  rw [hlisted] at hports
  obtain ⟨value, hmem, hvalue⟩ := Manifest.exists_valid_of_child? hports hitem
  obtain ⟨-, -, hbindings⟩ := Manifest.exists_reduceService_eq_ok_iff.mp (hreduce hname)
  exact Manifest.portShown_of_accepts ⟨value, hvalue, hbindings value hmem⟩

end Document

end ComposeLint
