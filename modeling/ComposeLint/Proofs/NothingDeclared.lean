import ComposeLint.Proofs.FileByFile
import ComposeLint.Proofs.Isolation
import ComposeLint.Proofs.ServiceByService

/-!
# Manifests without services

A manifest that declares no services has nothing to audit: the document that is read has neither
services nor networks, whatever else the manifest declares, and no rule of the catalog finds
anything in it (`evaluate_empty`). What stands beside the services is looked at all the same
before the document is made. So this holds exactly when the networks and the volumes have a shape
that they may have (`Manifest.OthersFit`); otherwise the manifest is refused
(`ofTree_withoutServices`).
-/

namespace ComposeLint

open Check

variable {rule : Rule} {tables : RuleTables} {engine : Engine} {path : String}

/-! ## The document -/

namespace Engine

theorem block_empty (h : rule ∈ Rule.allRules) : block tables (.empty path) rule = [] := by
  obtain rfl | ⟨check, hcheck⟩ := Rule.eq_externalNetworks_or h
  · rfl
  · rw [block, hcheck]
    rfl

/-- **No selection of rules finds anything** where nothing is declared, with any tables. -/
theorem evaluate_empty (h : engine.rules ⊆ Rule.allRules) :
    engine.evaluate (.empty path) = [] := by
  rw [evaluate_eq]
  exact List.flatMap_eq_nil_iff.mpr fun rule hrule => block_empty (h hrule)

end Engine

/-! ## What stands beside the services -/

namespace Manifest

/-- A network: what is external is said by a truth value or by a mapping, the driver by a text. -/
def networkFits : Demand :=
  Demand.fields
    [("external", Demand.orNull fun found =>
        (∃ b, found = some (.bool b)) ∨ Demand.entries (fun _ _ => True) found),
      ("driver", Demand.orNull fun found => ∃ s, found = some (.text s))]

/-- What stands beside the services has a shape that it may have: the networks are a mapping to
networks, the volumes are a mapping to anything, and each of them may be left out or null. -/
structure OthersFit (entries : List (String × Tree)) : Prop where
  networks : (Demand.entries fun _ => networkFits.orNull).orNull (entries.lookup "networks")
  volumes : (Demand.entries fun _ _ => True).orNull (entries.lookup "volumes")

theorem accepts_external_iff {found : Option Tree} :
    Accepts (either [flag, mapped (fun _ => true) anyRecord]) (fun _ => True) found ↔
      (∃ b, found = some (.bool b)) ∨ Demand.entries (fun _ _ => True) found := by
  have hflag : Accepts flag (fun _ => True) found ↔ ∃ b, found = some (.bool b) := by
    simp only [accepts_flag_iff, and_true]
  rw [accepts_either_pair, accepts_mapped, accepts_anyRecord_iff, hflag]
  intro haccepts hrecord
  obtain ⟨b, rfl⟩ := hflag.mp haccepts
  obtain ⟨entries, hentries, -⟩ := accepts_anyRecord_iff.mp (accepts_mapped.mp hrecord)
  cases hentries

theorem accepts_network_iff_networkFits {found : Option Tree} :
    Accepts network (fun _ => True) found ↔ networkFits found := by
  rw [accepts_network_iff, networkFits, networkFields, Demand.fields, Demand.fields]
  simp only [List.forall_mem_cons, accepts_nullish_iff, Demand.orNull, accepts_external_iff,
    accepts_text_iff, and_true, List.not_mem_nil, false_imp_iff, implies_true]

/-- **The shape is what is accepted** beside the services. -/
theorem takesOthers_iff {entries : List (String × Tree)} :
    TakesOthers (entries.lookup "networks") (entries.lookup "volumes") ↔ OthersFit entries := by
  have hnetwork : ∀ tree, Accepts (orNull network) (fun _ => True) (some tree) ↔
      networkFits.orNull (some tree) := fun tree => by
    rw [accepts_orNull_iff trivial (by rintro ⟨_, h, -⟩; cases h)]
    simp only [Demand.orNull, accepts_network_iff_networkFits]
  have hnetworks : ∀ found, Accepts (nullish (record (orNull network))) (fun _ => True) found ↔
      (Demand.entries fun _ => networkFits.orNull).orNull found := fun found => by
    rw [accepts_nullish_iff trivial]
    simp only [Demand.orNull, accepts_record_true_iff]
    simp only [Demand.entries, hnetwork, Demand.orNull]
  have hvolumes : ∀ found, Accepts (nullish anyRecord) (fun _ => True) found ↔
      (Demand.entries fun _ _ => True).orNull found := fun found => by
    rw [accepts_nullish_iff trivial]
    simp only [Demand.orNull, accepts_anyRecord_iff]
  rw [TakesOthers, hnetworks, hvolumes]
  exact ⟨fun h => ⟨h.1, h.2⟩, fun h => ⟨h.1, h.2⟩⟩

end Manifest

namespace Document

variable {tree : Tree} {entries : List (String × Tree)}

/-- Without services there are none in the shape. -/
theorem services_eq_none_of_valid {shape : ManifestShape} (hentries : tree.entries? = some entries)
    (hservices : entries.lookup "services" = none ∨ entries.lookup "services" = some .null)
    (h : Manifest.manifest (some tree) = .valid shape) : shape.services = none := by
  have haccepts : Accepts Manifest.manifest (fun found => found = shape) (some tree) :=
    Checked.meets_eq_iff.mpr h
  rw [Manifest.manifest, accepts_object_iff, Option.bind_some, hentries] at haccepts
  obtain ⟨_, ⟨rfl⟩, hread⟩ := haccepts
  simp only [Checked.meets_seq, Checked.meets_fmap, meets_field] at hread
  obtain ⟨services, hread, networks, -, volumes, -, rfl⟩ := hread
  rcases hservices with hnone | hnull
  · rw [hnone] at hread
    cases hread
    rfl
  · rw [hnull] at hread
    cases hread
    rfl

/-- **Without services** a manifest is an empty document, or its shape is wrong. -/
theorem ofTree_withoutServices_cases (path : String) (hentries : tree.entries? = some entries)
    (hservices : entries.lookup "services" = none ∨ entries.lookup "services" = some .null) :
    ofTree path (some tree) = .ok (.empty path) ∨
      ∃ issues, ofTree path (some tree) = .error (.wrongShape issues) := by
  have hnull : tree ≠ .null := by rintro rfl; cases hentries
  rw [ofTree, if_pos (Manifest.isMapping_of_entries? hentries)]
  · cases hshape : Manifest.manifest (some tree) with
    | valid shape =>
      left
      simp only [Manifest.reduce, services_eq_none_of_valid hentries hservices hshape]
    | flawed issues => exact .inr ⟨issues, rfl⟩
    | mismatched issues => exact .inr ⟨issues, rfl⟩
  · exact hnull

/-- Its shape is right when what stands beside the services fits. -/
theorem exists_ofTree_withoutServices_iff (path : String) (hentries : tree.entries? = some entries)
    (hservices : entries.lookup "services" = none ∨ entries.lookup "services" = some .null) :
    (∃ document, ofTree path (some tree) = .ok document) ↔ Manifest.OthersFit entries := by
  have hnull : tree ≠ .null := by rintro rfl; cases hentries
  rw [exists_ofTree_eq_ok_iff, Demand.fields, Option.bind_some, hentries,
    Manifest.isMapping_of_entries? hentries, ← Manifest.takesOthers_iff, Manifest.TakesOthers]
  simp only [hnull, false_or, true_and, Option.some.injEq, exists_eq_left', Manifest.manifestFields,
    List.forall_mem_cons, List.not_mem_nil, false_imp_iff, implies_true, and_true]
  rw [and_iff_right]
  rw [accepts_nullish_iff (by simp)]
  exact hservices.imp_right .inl

end Document

/-! ## What is reported -/

namespace Audit

variable {audit : Audit} {tree : Tree}

/-- The file of the path can be read and is loaded as the tree. -/
def Loads (audit : Audit) (path : String) (tree : Tree) : Prop :=
  ∃ content, audit.tree.readPlace (FileTree.resolve audit.place path) = .ok content ∧
    audit.load path content = .ok (some tree)

theorem findings_report_singleton {findings : List Finding} (h : audit.Gives path findings) :
    (audit.report [path]).findings = findings := by
  rw [gives_iff.mp h]
  exact List.append_nil _

theorem Loads.findings_of_ok {document : Document} (h : audit.Loads path tree)
    (hread : Document.ofTree path (some tree) = .ok document) :
    (audit.report [path]).findings = audit.engine.evaluate document := by
  obtain ⟨content, hcontent, hload⟩ := h
  exact findings_report_singleton (.parsed hcontent hload hread)

theorem Loads.findings_of_error {fault : ManifestFault} (h : audit.Loads path tree)
    (hread : Document.ofTree path (some tree) = .error fault) :
    (audit.report [path]).findings = [unprocessed path fault.message] := by
  obtain ⟨content, hcontent, hload⟩ := h
  exact findings_report_singleton (.notManifest hcontent hload hread)

end Audit

namespace Document

variable {tree : Tree} {entries : List (String × Tree)}

/-- **A manifest without services has nothing to audit** exactly when the networks and the volumes
beside have a shape that they may have. It is then read as a document in which no selection of
rules finds anything, with any tables, and an audit of the file reports nothing. Otherwise it is
refused for its shape, and the audit reports the one error that says so. -/
theorem ofTree_withoutServices (path : String) (hentries : tree.entries? = some entries)
    (hservices : entries.lookup "services" = none ∨ entries.lookup "services" = some .null) :
    (Manifest.OthersFit entries →
      ∃ document, ofTree path (some tree) = .ok document ∧
        (∀ engine : Engine, engine.rules ⊆ Rule.allRules → engine.evaluate document = []) ∧
        ∀ audit : Audit, audit.engine.rules ⊆ Rule.allRules → audit.Loads path tree →
          (audit.report [path]).findings = []) ∧
    (¬ Manifest.OthersFit entries →
      ∃ issues, ofTree path (some tree) = .error (.wrongShape issues) ∧
        ∀ audit : Audit, audit.Loads path tree →
          (audit.report [path]).findings =
            [Audit.unprocessed path (ManifestFault.wrongShape issues).message]) := by
  have hcases := ofTree_withoutServices_cases path hentries hservices
  have hexists := exists_ofTree_withoutServices_iff path hentries hservices
  constructor
  · intro hfit
    have hempty : ofTree path (some tree) = .ok (.empty path) := by
      refine hcases.resolve_right ?_
      rintro ⟨issues, hissues⟩
      obtain ⟨document, hdocument⟩ := hexists.mpr hfit
      cases hdocument.symm.trans hissues
    refine ⟨.empty path, hempty, fun engine => Engine.evaluate_empty, ?_⟩
    intro audit hcatalog hloads
    rw [hloads.findings_of_ok hempty]
    exact Engine.evaluate_empty hcatalog
  · intro hunfit
    obtain ⟨issues, hissues⟩ := hcases.resolve_left fun hempty =>
      hunfit (hexists.mp ⟨_, hempty⟩)
    exact ⟨issues, hissues, fun audit hloads => hloads.findings_of_error hissues⟩

/-- Networks and volumes beside an empty `services`. One network is external. -/
def unusedNetworks : Tree :=
  .mapping [("services", .null),
    ("networks", .mapping [("outside", .mapping [("external", .bool true)]), ("bare", .null)]),
    ("volumes", .mapping [("data", .null)])]

theorem othersFit_unusedNetworks :
    ∃ entries, unusedNetworks.entries? = some entries ∧
      entries.lookup "services" = some .null ∧ Manifest.OthersFit entries := by
  have houtside : Manifest.networkFits (some (.mapping [("external", .bool true)])) := by
    refine ⟨[("external", .bool true)], rfl, List.forall_mem_cons.mpr ⟨?_, ?_⟩⟩
    · exact .inr (.inr (.inl ⟨true, rfl⟩))
    · exact List.forall_mem_singleton.mpr (.inl rfl)
  refine ⟨_, rfl, rfl, .inr (.inr ⟨[("outside", .mapping [("external", .bool true)]),
    ("bare", .null)], rfl, List.forall_mem_cons.mpr ⟨?_, ?_⟩⟩),
    .inr (.inr ⟨_, rfl, fun _ _ => trivial⟩)⟩
  · exact .inr (.inr houtside)
  · exact List.forall_mem_singleton.mpr (.inr (.inl rfl))

/-- The external network is not reported. -/
theorem ofTree_unusedNetworks :
    ∃ entries, unusedNetworks.entries? = some entries ∧
      entries.lookup "services" = some .null ∧ Manifest.OthersFit entries ∧
      ∃ document, ofTree "compose.yml" (some unusedNetworks) = .ok document ∧
        (Engine.selected true .standard).evaluate document = [] := by
  obtain ⟨entries, hentries, hservices, hfit⟩ := othersFit_unusedNetworks
  obtain ⟨document, hread, hquiet, -⟩ :=
    (ofTree_withoutServices "compose.yml" hentries (.inr hservices)).1 hfit
  exact ⟨entries, hentries, hservices, hfit, document, hread,
    hquiet _ (List.Subset.refl _)⟩

/-- Networks that are listed instead of declared. -/
def listedNetworks : Tree := .mapping [("networks", .list [.text "back"])]

/-- **They are refused**, although there is no service to attach to them. -/
theorem not_ofTree_listedNetworks :
    (∃ entries, listedNetworks.entries? = some entries ∧ entries.lookup "services" = none) ∧
      ¬ ∃ document, ofTree "docker-compose.yml" (some listedNetworks) = .ok document := by
  refine ⟨⟨_, rfl, rfl⟩, ?_⟩
  rintro ⟨document, hdocument⟩
  cases hdocument

end Document

end ComposeLint
