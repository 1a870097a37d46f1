import ComposeLint.Proofs.Cutting
import ComposeLint.Proofs.FieldByField
import ComposeLint.Proofs.Locality

/-!
# The two ways of writing an environment

An environment is a mapping, or a list whose items are cut at their first equals sign. A variable of
a mapping can be written as an item (`Environment.itemOf`), and as long as its name has no equals
sign of its own the item is read as the same variable (`Environment.ofItem_itemOf`). So the two ways
give the same variables in the same order, and the same is found about secrets in them
(`environment_list_eq_mapping`). The order is that in which a mapping is read: names that are
positions come first.
-/

namespace ComposeLint

open Check

/-! ## Variables -/

namespace Environment

variable {entries : List (String × Option Scalar)}

/-- A variable of a mapping as an item of a list: `NAME=value`, or the name alone if it has no
value. -/
def itemOf (entry : String × Option Scalar) : String :=
  match entry.2 with
  | some value => entry.1 ++ "=" ++ value.toText
  | none => entry.1

/-- **An item is read as the variable that it is written for**, however many equals signs the value
has. -/
theorem ofItem_itemOf {entry : String × Option Scalar} (h : '=' ∉ entry.1.toList) :
    ofItem (.text (itemOf entry)) = ofEntry entry := by
  obtain ⟨name, value⟩ := entry
  have hname : ∀ c ∈ name.toList, (c == '=') = false := fun c hc =>
    beq_eq_false_iff_ne.mpr fun heq => h (heq ▸ hc)
  cases value with
  | none =>
    have hcut : Text.cutFirst? (· == '=') name.toList = none := Text.cutFirst?_eq_none hname
    simp only [ofItem, itemOf, Scalar.toText, hcut, ofEntry]
  | some value =>
    have hchars : (name ++ "=" ++ value.toText).toList =
        name.toList ++ '=' :: value.toText.toList := by
      simp
    have hcut : Text.cutFirst? (· == '=') (name ++ "=" ++ value.toText).toList =
        some (name.toList, value.toText.toList) := by
      rw [hchars, Text.cutFirst?_append_of_forall hname]
      simp [Text.cutFirst?]
    have htext : (Scalar.text (itemOf (name, some value))).toText = name ++ "=" ++ value.toText :=
      rfl
    simp only [ofItem, htext, hcut, ofEntry, String.ofList_toList]

/-- The list that a mapping is written as. -/
def listOf (entries : List (String × Option Scalar)) : EnvironmentShape :=
  .list (entries.map fun entry => .text (itemOf entry))

/-- **The list is read as the mapping.** -/
theorem ofShape_listOf (h : ∀ entry ∈ entries, '=' ∉ entry.1.toList) :
    ofShape (listOf entries) = ofShape (.mapping entries) := by
  have hitems : (entries.map fun entry => Scalar.text (itemOf entry)).map ofItem =
      entries.map ofEntry := by
    rw [List.map_map]
    exact List.map_congr_left fun entry hentry => ofItem_itemOf (h entry hentry)
  rw [listOf, ofShape, ofShape, hitems]

/-- A mapping is read variable by variable. -/
theorem entries_ofShape_mapping (hnodup : (entries.map Prod.fst).Nodup) :
    (ofShape (.mapping entries)).entries = entries.map ofEntry :=
  Table.entries_ofList (by rwa [Manifest.map_fst_ofEntry])

end Environment

/-! ## Secrets -/

namespace Rule

/-- The findings about variables that look like secrets and have their values written out. -/
def secretFindings (tables : RuleTables) (path service : String)
    (entries : List (String × EnvValue)) : List Finding :=
  (entries.filter fun entry =>
    isSecretName tables entry.1 && isWrittenOut tables entry.2).map fun entry =>
    { severity := .high
      category := "Secret Management"
      message := "Service '" ++ service ++ "' " ++ ("may have hardcoded secret in " ++ entry.1)
      sourceFile := path
      ruleId := "hardcoded-secrets"
      serviceName := some service }

theorem reportAlone_hardcodedSecrets (tables : RuleTables) (path : String) (service : Service) :
    Engine.reportAlone tables path hardcodedSecrets service =
      secretFindings tables path service.name service.environment.entries := by
  rw [secretFindings]
  exact List.map_map

end Rule

/-! ## Trees -/

namespace Manifest

variable {tree : Tree} {entries : List (String × Option Scalar)}

/-- The environment that a tree is read as, if it has the shape of one. -/
def readEnvironment (tree : Tree) : Option (Table EnvValue) :=
  (environment (some tree)).value?.map Environment.ofShape

/-- A list of texts has the shape of an environment. -/
theorem environment_texts (items : List String) :
    environment (some (.texts items)) = .valid (.list (items.map .text)) := by
  have hlist : list scalar (some (.texts items)) = .valid (items.map .text) := by
    rw [list_eq_valid_iff]
    refine ⟨items.map .text, rfl, ?_⟩
    rw [List.map_map, List.map_map]
    rfl
  have hmapped : mapped .list (list scalar) (some (.texts items)) =
      .valid (EnvironmentShape.list (items.map .text)) := by
    rw [mapped, hlist]
    rfl
  rw [environment, either, List.map_cons, hmapped]
  rfl

/-- What is read as a mapping has the keys of the tree, in reading order and without the reserved
one. -/
theorem keys_of_environment (h : environment (some tree) = .valid (.mapping entries)) :
    entries.map Prod.fst =
      ((tree.entries?.getD []).map Prod.fst).filter (· ≠ reservedKey) := by
  have haccepts : Accepts environment (fun shape => shape = .mapping entries) (some tree) :=
    Checked.meets_eq_iff.mpr h
  rw [environment, accepts_either_cons, accepts_either_singleton] at haccepts
  rcases haccepts with hlist | ⟨-, hmapping⟩
  · obtain ⟨_, -, hshape⟩ := accepts_mapped.mp hlist
    cases hshape
  · obtain ⟨kept, hkept, hshape⟩ := accepts_mapped.mp hmapping
    cases hshape
    exact keys_of_record hkept

end Manifest

open Manifest

/-- **The two ways of writing an environment agree.** Of a mapping whose names have no equals sign,
the list of its variables in order, each written as `NAME=value` or as its name alone,

- is read as the same environment, which has the variables of the mapping in this order;
- gives the same findings about secrets in the same order: those about the variables that look like
  secrets and have their values written out.

Of a tree that is read as this mapping the variables are those of its keys in reading order, and the
list as a tree of its own is read as the same environment. -/
theorem environment_list_eq_mapping {entries : List (String × Option Scalar)}
    (hnodup : (entries.map Prod.fst).Nodup) (hnames : ∀ entry ∈ entries, '=' ∉ entry.1.toList) :
    Environment.ofShape (Environment.listOf entries) = Environment.ofShape (.mapping entries) ∧
      (Environment.ofShape (.mapping entries)).entries = entries.map Environment.ofEntry ∧
      (∀ shape ∈ [Environment.listOf entries, .mapping entries],
        ∀ tables path (service : Service), service.environment = Environment.ofShape shape →
          Engine.reportAlone tables path Rule.hardcodedSecrets service =
            Rule.secretFindings tables path service.name (entries.map Environment.ofEntry)) ∧
      ∀ tree, environment (some tree) = .valid (.mapping entries) →
        entries.map Prod.fst =
            ((tree.entries?.getD []).map Prod.fst).filter (· ≠ reservedKey) ∧
          readEnvironment tree = some (Environment.ofShape (.mapping entries)) ∧
          readEnvironment (.texts (entries.map Environment.itemOf)) = readEnvironment tree := by
  have hlist := Environment.ofShape_listOf hnames
  have hentries := Environment.entries_ofShape_mapping hnodup
  refine ⟨hlist, hentries, fun shape hshape tables path service hservice => ?_,
    fun tree htree => ?_⟩
  · have hread : service.environment = Environment.ofShape (.mapping entries) := by
      simp only [List.mem_cons, List.not_mem_nil, or_false] at hshape
      rcases hshape with rfl | rfl
      · rw [hservice, hlist]
      · exact hservice
    rw [Rule.reportAlone_hardcodedSecrets, hread, hentries]
  · have hmapping : readEnvironment tree = some (Environment.ofShape (.mapping entries)) := by
      rw [readEnvironment, htree]
      rfl
    have htexts : readEnvironment (.texts (entries.map Environment.itemOf)) =
        some (Environment.ofShape (Environment.listOf entries)) := by
      rw [readEnvironment, environment_texts, List.map_map]
      rfl
    exact ⟨keys_of_environment htree, hmapping, by rw [htexts, hmapping, hlist]⟩

/-- A mapping in which a position comes last, and its variables as they are read. -/
def writtenVariables : Tree :=
  .mapping [("API_TOKEN", .text "a=b"), ("HOME", .null), ("7", .number (.ofNat 80))]

def readVariables : List (String × Option Scalar) :=
  [("7", some (.number (.ofNat 80))), ("API_TOKEN", some (.text "a=b")), ("HOME", none)]

theorem environment_list_eq_mapping_readVariables :
    (readVariables.map Prod.fst).Nodup ∧ (∀ entry ∈ readVariables, '=' ∉ entry.1.toList) ∧
      environment (some writtenVariables) = .valid (.mapping readVariables) ∧
      readEnvironment (.texts ["7=80", "API_TOKEN=a=b", "HOME"]) =
        readEnvironment writtenVariables ∧
      (readEnvironment writtenVariables).map (·.entries) =
        some [("7", .literal "80"), ("API_TOKEN", .literal "a=b"), ("HOME", .inherited)] := by
  have hnodup : (readVariables.map Prod.fst).Nodup := by decide
  have hnames : ∀ entry ∈ readVariables, '=' ∉ entry.1.toList := by decide
  have htree : environment (some writtenVariables) = .valid (.mapping readVariables) := by rfl
  obtain ⟨-, hentries, -, hread⟩ := environment_list_eq_mapping hnodup hnames
  obtain ⟨-, hmapping, hlist⟩ := hread writtenVariables htree
  refine ⟨hnodup, hnames, htree, hlist, ?_⟩
  rw [hmapping, Option.map_some, hentries]
  rfl

end ComposeLint
