import ComposeLint.Proofs.Environment
import ComposeLint.Proofs.Repetition
import ComposeLint.Proofs.ServiceItems
import ComposeLint.Proofs.Settings
import ComposeLint.Proofs.Splitting

/-!
# Hardcoded secrets as they are written

An environment is written as assignments, in a list or in a mapping (`Manifest.Assigns`). A name may
be assigned several times, and only its last assignment counts (`LastAssigns`). The rule on
hardcoded secrets has one hit on each name that looks like a secret and is last given a text that is
written out, in the order in which the names first come (`Rule.findsSecrets_of_readsAs`).
-/

namespace ComposeLint

open Check

/-! ## What is assigned -/

/-- A name, and the text that it is given if it is given one. -/
abbrev Assignment := String × Option String

/-- What an item of a list assigns. -/
inductive Scalar.Assigns : Scalar → Assignment → Prop
  /-- The name stands before the first equals sign, and the text behind it. -/
  | value {item : Scalar} {name value : String} : item.toText = name ++ "=" ++ value →
      '=' ∉ name.toList → Assigns item (name, some value)
  /-- Without an equals sign there is a name only. -/
  | name {item : Scalar} : '=' ∉ item.toText.toList → Assigns item (item.toText, none)

/-- Whether an assignment is the last one to its name. -/
def LastAssigns (assignments : List Assignment) (last : Assignment) : Prop :=
  ∃ before after, assignments = before ++ last :: after ∧ ∀ other ∈ after, other.1 ≠ last.1

/-- What is assigned in the environment of a service, in the order in which it is read. -/
inductive Manifest.Assigns (tree : Tree) : List Assignment → Prop
  /-- A list is read item by item. -/
  | list {items : List Scalar} {assignments : List Assignment} :
      Lists scalar "environment" tree items → List.Forall₂ Scalar.Assigns items assignments →
        Assigns tree assignments
  /-- A mapping is read entry by entry, and a null gives no text. -/
  | mapping {fields entries : List (String × Tree)} {values : List (String × Option Scalar)} :
      Tree.declared? (some tree) = some fields →
        Tree.declared? (fields.lookup "environment") = some entries →
          List.Forall₂ (fun entry value => entry.1 = value.1 ∧
            orNull scalar (some entry.2) = .valid value.2) entries values →
              Assigns tree (values.map fun value => (value.1, value.2.map Scalar.toText))

/-- **The last assignment to a name is what is found from behind.** -/
theorem lastAssigns_iff {assignments : List Assignment} {name : String} {value : Option String} :
    LastAssigns assignments (name, value) ↔ assignments.reverse.lookup name = some value := by
  rw [List.lookup_eq_some_iff]
  constructor
  · rintro ⟨before, after, rfl, hafter⟩
    refine ⟨after.reverse, before.reverse, by simp, fun other hother => ?_⟩
    exact bne_iff_ne.mpr (hafter other (List.mem_reverse.mp hother)).symm
  · rintro ⟨after, before, hreverse, hafter⟩
    refine ⟨before.reverse, after.reverse, ?_, fun other hother => ?_⟩
    · rw [← List.reverse_reverse assignments, hreverse]
      simp
    · exact (bne_iff_ne.mp (hafter other (List.mem_reverse.mp hother))).symm

/-! ## Environments of assignments -/

namespace Environment

/-- What an environment holds of a text that is assigned. -/
def valueOf : Option String → EnvValue
  | some text => .ofText text
  | none => .inherited

/-- The environment that assignments make. -/
def ofAssignments (assignments : List Assignment) : Table EnvValue :=
  .ofList (assignments.map fun assignment => (assignment.1, valueOf assignment.2))

variable {item : Scalar} {assignment : Assignment} {assignments : List Assignment}

/-- **An item is read as what it assigns.** -/
theorem ofItem_eq (h : item.Assigns assignment) :
    ofItem item = (assignment.1, valueOf assignment.2) := by
  cases h with
  | @value name value htext hname =>
    have hcut : Text.cutFirst? (· == '=') item.toText.toList = some (name.toList, value.toList) :=
      Text.cutFirst?_eq_some_iff.mpr
        ⟨'=', by simp [htext], rfl, fun c hc => beq_eq_false_iff_ne.mpr fun heq => hname (heq ▸ hc)⟩
    simp only [ofItem, hcut, String.ofList_toList, valueOf]
  | name hname =>
    have hcut : Text.cutFirst? (· == '=') item.toText.toList = none :=
      Text.cutFirst?_eq_none fun c hc => beq_eq_false_iff_ne.mpr fun heq => hname (heq ▸ hc)
    simp only [ofItem, hcut, valueOf]

theorem exists_assigns (item : Scalar) : ∃ assignment, item.Assigns assignment := by
  cases hcut : Text.cutFirst? (· == '=') item.toText.toList with
  | none =>
    exact ⟨_, .name fun hmem => by simpa using Text.cutFirst?_eq_none_iff.mp hcut '=' hmem⟩
  | some cut =>
    obtain ⟨c, htext, hc, hname⟩ := Text.cutFirst?_eq_some_iff.mp hcut
    obtain rfl : c = '=' := eq_of_beq hc
    refine ⟨(String.ofList cut.1, some (String.ofList cut.2)), .value ?_ fun hmem => ?_⟩
    · rw [← String.toList_inj]
      simpa using htext
    · rw [String.toList_ofList] at hmem
      simpa using hname '=' hmem

theorem ofShape_list {items : List Scalar} (h : List.Forall₂ Scalar.Assigns items assignments) :
    ofShape (.list items) = ofAssignments assignments := by
  have hitems : items.map ofItem =
      assignments.map fun assignment => (assignment.1, valueOf assignment.2) := by
    rw [← List.forall₂_eq_eq_eq, List.forall₂_map_left_iff, List.forall₂_map_right_iff]
    exact h.imp fun _ _ => ofItem_eq
  rw [ofShape, ofAssignments, hitems]

theorem ofShape_mapping (values : List (String × Option Scalar)) :
    ofShape (.mapping values) =
      ofAssignments (values.map fun value => (value.1, value.2.map Scalar.toText)) := by
  rw [ofShape, ofAssignments, List.map_map]
  refine congrArg _ (List.map_congr_left fun value _ => ?_)
  obtain ⟨name, _ | text⟩ := value <;> rfl

end Environment

namespace Manifest

variable {tree : Tree} {fields : List (String × Tree)} {assignments : List Assignment}
  {found : Option Tree}

/-- An environment that is left out or null is none. -/
theorem nullish_environment_of_nothing (h : found = none ∨ found = some .null) :
    nullish Manifest.environment found = .valid none := by
  rcases h with rfl | rfl <;> rfl

/-- An environment that is a list is read item by item. -/
theorem exists_environment_of_listed {trees : List Tree} {items : List Scalar}
    (htrees : Tree.listed? found = some trees)
    (hread : trees.map (fun item => scalar (some item)) = items.map .valid) :
    ∃ environment, nullish Manifest.environment found = .valid environment ∧
      environmentOf environment = Environment.ofShape (.list items) := by
  rcases Tree.listed?_cases htrees with ⟨hnone, rfl⟩ | ⟨tree, rfl, hne, htrees⟩
  · obtain rfl : items = [] := by simpa using hread.symm
    exact ⟨none, nullish_environment_of_nothing hnone, rfl⟩
  · have hlist : list scalar (some tree) = .valid items :=
      list_eq_valid_iff.mpr ⟨trees, htrees, hread⟩
    have henvironment : Manifest.environment (some tree) = .valid (.list items) := by
      rw [Manifest.environment, either, List.map_cons, mapped, hlist]
      rfl
    refine ⟨some (.list items), ?_, rfl⟩
    rw [nullish_of_ne_null hne, henvironment]
    rfl

/-- An environment that is a mapping is read entry by entry, but for the reserved key. -/
theorem exists_environment_of_declared {entries : List (String × Tree)}
    {values : List (String × Option Scalar)} (hentries : Tree.declared? found = some entries)
    (hread : List.Forall₂ (fun entry value => entry.1 = value.1 ∧
      orNull scalar (some entry.2) = .valid value.2) entries values) :
    ∃ environment, nullish Manifest.environment found = .valid environment ∧
      environmentOf environment =
        Environment.ofShape (.mapping (values.filter (·.1 ≠ reservedKey))) := by
  rcases Tree.declared?_cases hentries with ⟨hnone, rfl⟩ | ⟨tree, rfl, hne, hentries⟩
  · cases hread
    exact ⟨none, nullish_environment_of_nothing hnone, rfl⟩
  · have hbind : (some tree).bind Tree.entries? = some entries := hentries
    have hrecord : record (orNull scalar) (some tree) =
        .valid (values.filter (·.1 ≠ reservedKey)) :=
      record_eq_valid_iff.mpr ⟨entries, values, hbind, hread, rfl⟩
    refine ⟨some (.mapping (values.filter (·.1 ≠ reservedKey))), ?_, rfl⟩
    rw [nullish_of_ne_null hne, (environment_eq_valid_iff hbind).mpr ⟨_, hrecord, rfl⟩]
    rfl

/-- **What is assigned is read**, but for what stands under the reserved key of a mapping. -/
theorem exists_environment_of_assigns (h : Assigns tree assignments)
    (hfields : Tree.declared? (some tree) = some fields) :
    ∃ environment kept, nullish Manifest.environment (fields.lookup "environment") =
        .valid environment ∧ environmentOf environment = Environment.ofAssignments kept ∧
      (kept = assignments ∨ kept = assignments.filter fun assignment =>
        assignment.1 ≠ reservedKey) := by
  cases h with
  | list hlists hitems =>
    obtain ⟨fields', trees, hfields', htrees, hread⟩ := hlists
    obtain rfl : fields = fields' := Option.some.inj (hfields.symm.trans hfields')
    obtain ⟨environment, hvalid, hshape⟩ := exists_environment_of_listed htrees hread
    exact ⟨environment, _, hvalid, hshape.trans (Environment.ofShape_list hitems), .inl rfl⟩
  | mapping hfields' hentries hread =>
    obtain rfl := Option.some.inj (hfields.symm.trans hfields')
    obtain ⟨environment, hvalid, hshape⟩ := exists_environment_of_declared hentries hread
    refine ⟨environment, _, hvalid, hshape.trans (Environment.ofShape_mapping _), .inr ?_⟩
    rw [List.filter_map]
    rfl

/-- **What is accepted assigns something**, be it nothing at all. -/
theorem exists_assigns {environment : Option EnvironmentShape}
    (hfields : Tree.declared? (some tree) = some fields)
    (h : nullish Manifest.environment (fields.lookup "environment") = .valid environment) :
    ∃ assignments, Assigns tree assignments := by
  have hlist : ∀ {trees : List Tree} (items : List Scalar),
      Tree.listed? (fields.lookup "environment") = some trees →
        trees.map (fun item => scalar (some item)) = items.map .valid →
          ∃ assignments, Assigns tree assignments := by
    intro trees items htrees hitems
    obtain ⟨assignments, hassigns⟩ := exists_forall₂ fun item (_ : item ∈ items) =>
      Environment.exists_assigns item
    exact ⟨assignments, .list ⟨fields, trees, hfields, htrees, hitems⟩ hassigns⟩
  rcases eq_none_or_of_nullish h with ⟨-, hnone | hnull⟩ | ⟨written, -, hwritten⟩
  · exact hlist [] (by rw [hnone]; rfl) rfl
  · exact hlist [] (by rw [hnull]; rfl) rfl
  · have haccepts : Accepts Manifest.environment (fun shape => shape = written)
        (fields.lookup "environment") := Checked.meets_eq_iff.mpr hwritten
    rw [Manifest.environment, accepts_either_cons, accepts_either_singleton] at haccepts
    rcases haccepts with hitems | ⟨-, hmapping⟩
    · obtain ⟨items, hitems, -⟩ := accepts_mapped.mp hitems
      obtain ⟨trees, htrees, hread⟩ := list_eq_valid_iff.mp hitems
      exact hlist items (Tree.listed?_of_items? htrees) hread
    · obtain ⟨kept, hkept, -⟩ := accepts_mapped.mp hmapping
      obtain ⟨entries, values, hentries, hread, -⟩ := record_eq_valid_iff.mp hkept
      exact ⟨_, .mapping hfields (Tree.declared?_of_entries? hentries) hread⟩

end Manifest

/-! ## What is found -/

/-- A dollar and a name behind it. -/
def IsVariable (text : String) : Prop :=
  ∃ first rest, text.toList = '$' :: first :: rest ∧ Substitution.beginsName first = true ∧
    ∀ c ∈ rest, Substitution.continuesName c = true

namespace Rule

variable {tables : RuleTables} {name text : String} {assignments : List Assignment}
  {service : Service} {context : RuleContext}

/-- Whether a name, in small letters, contains one of the patterns. -/
def LooksSecret (tables : RuleTables) (name : String) : Prop :=
  ∃ pattern ∈ tables.secretKeyPatterns, pattern.toList <:+: Text.lower name.toList

/-- Whether a text is written out: it is not empty, neither begins with a group nor is a variable,
and is no placeholder in small letters. -/
structure IsHardcoded (tables : RuleTables) (text : String) : Prop where
  ne_empty : text ≠ ""
  noGroup : ¬ "$\x7b".toList <+: text.toList
  noVariable : ¬ IsVariable text
  noPlaceholder : Text.lowered text ∉ tables.secretPlaceholders

/-- Whether a secret is given away: a name that looks like one is last given a text that is written
out. -/
def GivesAway (tables : RuleTables) (assignments : List Assignment) (name : String) : Prop :=
  LooksSecret tables name ∧
    ∃ text, LastAssigns assignments (name, some text) ∧ IsHardcoded tables text

theorem isSecretName_iff : isSecretName tables name = true ↔ LooksSecret tables name := by
  simp only [isSecretName, List.any_eq_true, Text.occursIn_iff, LooksSecret]
  refine exists_congr fun pattern => and_congr_right fun _ => ?_
  exact exists_congr fun before => exists_congr fun after => eq_comm

theorem isBareReference_iff :
    Substitution.isBareReference text.toList = true ↔ IsVariable text := by
  rw [IsVariable]
  unfold Substitution.isBareReference
  split
  · next first rest htext => simp [htext]
  · next hnot =>
    refine iff_of_false Bool.false_ne_true ?_
    rintro ⟨first, rest, htext, -⟩
    exact hnot first rest htext

theorem beginsWithGroup_iff :
    Substitution.beginsWithGroup text.toList = true ↔ "$\x7b".toList <+: text.toList := by
  unfold Substitution.beginsWithGroup
  split
  · next rest htext => simp [htext]
  · next hnot =>
    refine iff_of_false Bool.false_ne_true ?_
    rintro ⟨rest, hrest⟩
    exact hnot rest hrest.symm

theorem isWrittenOut_ofText_iff :
    isWrittenOut tables (.ofText text) = true ↔ IsHardcoded tables text := by
  have hsubstitution : (Substitution.beginsWithGroup text.toList ||
      Substitution.isBareReference text.toList) = true ↔
        "$\x7b".toList <+: text.toList ∨ IsVariable text := by
    rw [Bool.or_eq_true, beginsWithGroup_iff, isBareReference_iff]
  rw [EnvValue.ofText]
  split
  · next h =>
    refine iff_of_false Bool.false_ne_true fun hout => ?_
    exact (hsubstitution.mp h).elim hout.noGroup hout.noVariable
  · next h =>
    obtain ⟨hgroup, hvariable⟩ := not_or.mp (mt hsubstitution.mpr h)
    simp only [isWrittenOut, Bool.and_eq_true, bne_iff_ne, Bool.not_eq_true', Bool.eq_false_iff,
      ne_eq, List.contains_iff_mem]
    exact ⟨fun hout => ⟨hout.1, hgroup, hvariable, hout.2⟩,
      fun hout => ⟨hout.ne_empty, hout.noPlaceholder⟩⟩

/-- Only the last assignment is judged. -/
theorem any_isWrittenOut_iff :
    ((assignments.reverse.lookup name).map Environment.valueOf).any (isWrittenOut tables) = true ↔
      ∃ text, LastAssigns assignments (name, some text) ∧ IsHardcoded tables text := by
  simp only [lastAssigns_iff, ← isWrittenOut_ofText_iff]
  rcases assignments.reverse.lookup name with _ | _ | value
  · simp
  · simp [Environment.valueOf, isWrittenOut]
  · simp [Environment.valueOf]

instance : DecidablePred (GivesAway tables assignments) := fun name =>
  decidable_of_iff (isSecretName tables name = true ∧
      ((assignments.reverse.lookup name).map Environment.valueOf).any (isWrittenOut tables) = true)
    (and_congr isSecretName_iff any_isWrittenOut_iff)

/-- The secrets that are given away, in the order in which their names first come. -/
def givenAway (tables : RuleTables) (assignments : List Assignment) : List String :=
  (assignments.map Prod.fst).eraseDups.filter fun name => GivesAway tables assignments name

/-- The hit on a name. -/
def secretHit (service : Service) (name : String) : Hit :=
  ⟨.high, about service ("may have hardcoded secret in " ++ name)⟩

/-- **Of an environment the secrets that are given away are found.** -/
theorem hits?_hardcodedSecrets (h : service.environment = Environment.ofAssignments assignments) :
    hardcodedSecrets.hits? context service =
      some ((givenAway context.tables assignments).map (secretHit service)) := by
  have hrule : hardcodedSecrets.hits? context service =
      some (((service.environment.entries.filter fun entry =>
        isSecretName context.tables entry.1 && isWrittenOut context.tables entry.2).map
          Prod.fst).map (secretHit service)) := by
    rw [List.map_map]
    rfl
  have hnames : service.environment.names = (assignments.map Prod.fst).eraseDups := by
    rw [h, Environment.ofAssignments, Table.names_ofList, List.map_map]
    rfl
  have hvalue : ∀ name, service.environment.get? name =
      (assignments.reverse.lookup name).map Environment.valueOf := by
    intro name
    rw [h, Environment.ofAssignments, Table.get?, lookup_ofList, ← List.map_reverse]
    exact lookup_map_snd (fun _ => Environment.valueOf) assignments.reverse name
  rw [hrule, Table.map_fst_filter_entries, hnames, givenAway]
  refine congrArg (fun names => some (names.map (secretHit service)))
    (List.filter_congr fun name _ => ?_)
  rw [hvalue, Bool.eq_iff_iff, decide_eq_true_eq, GivesAway, ← isSecretName_iff,
    ← any_isWrittenOut_iff]
  cases assignments.reverse.lookup name <;> simp

/-- An assignment that is repeated before its name is assigned anew adds nothing. -/
theorem givenAway_repeated {before : List Assignment} {assignment : Assignment}
    (h : LastAssigns before assignment) (after : List Assignment) :
    givenAway tables (before ++ assignment :: after) = givenAway tables (before ++ after) := by
  have hmem : assignment.1 ∈ before.map Prod.fst := by
    obtain ⟨_, _, rfl, -⟩ := h
    simp
  have hnames : ((before ++ assignment :: after).map Prod.fst).eraseDups =
      ((before ++ after).map Prod.fst).eraseDups := by
    rw [List.map_append, List.map_cons, eraseDups_append_cons_of_mem hmem, ← List.map_append]
  have hlast : ∀ last, LastAssigns (before ++ assignment :: after) last ↔
      LastAssigns (before ++ after) last := by
    rintro ⟨name, value⟩
    rw [lastAssigns_iff, lastAssigns_iff, List.reverse_append, List.reverse_append,
      List.reverse_cons, List.append_assoc, List.singleton_append, List.lookup_append,
      List.lookup_append, lookup_cons_eq_ite]
    split
    · next hname => rw [hname, lastAssigns_iff.mp h]
    · rfl
  rw [givenAway, givenAway, hnames]
  refine List.filter_congr fun name _ => ?_
  rw [decide_eq_decide]
  simp only [GivesAway, hlast]

/-- What is assigned to names that look like no secret gives none away. -/
theorem givenAway_filter (h : ¬ LooksSecret tables name) :
    givenAway tables (assignments.filter fun assignment => assignment.1 ≠ name) =
      givenAway tables assignments := by
  have hnames : (assignments.filter fun assignment => assignment.1 ≠ name).map Prod.fst =
      (assignments.map Prod.fst).filter (· ≠ name) := by
    rw [List.filter_map]
    rfl
  have hlast : ∀ other value, other ≠ name →
      (LastAssigns (assignments.filter fun assignment => assignment.1 ≠ name) (other, value) ↔
        LastAssigns assignments (other, value)) := by
    intro other value hother
    rw [lastAssigns_iff, lastAssigns_iff, ← List.filter_reverse,
      Settings.lookup_filter_fst fun key => decide (key ≠ name), if_pos (decide_eq_true hother)]
  rw [givenAway, givenAway, hnames, eraseDups_filter, List.filter_filter]
  refine List.filter_congr fun other _ => ?_
  rw [← Bool.decide_and, decide_eq_decide]
  by_cases hother : other = name
  · subst hother
    exact iff_of_false (fun hgives => h hgives.1.1) fun hgives => h hgives.1
  · rw [and_iff_left hother]
    simp only [GivesAway, hlast other _ hother]

theorem secretHit_injective (service : Service) : Function.Injective (secretHit service) :=
  hit_injective service .high "may have hardcoded secret in "

/-- What is found of the secrets in the environment of a service. -/
structure FindsSecrets (context : RuleContext) (service : Service)
    (assignments : List Assignment) : Prop where
  hits : hardcodedSecrets.hits? context service =
    some ((givenAway context.tables assignments).map (secretHit service))
  /-- There is at most one hit on a name. -/
  nodup : ((givenAway context.tables assignments).map (secretHit service)).Nodup
  /-- There is none on a name that is last given no text. -/
  unassigned : ∀ name, LastAssigns assignments (name, none) →
    secretHit service name ∉ (givenAway context.tables assignments).map (secretHit service)

theorem findsSecrets_of_hits (h : hardcodedSecrets.hits? context service =
    some ((givenAway context.tables assignments).map (secretHit service))) :
    FindsSecrets context service assignments where
  hits := h
  nodup := ((nodup_eraseDups _).filter _).map (secretHit_injective service)
  unassigned name hname hhit := by
    rw [List.mem_map_of_injective (secretHit_injective service), givenAway, List.mem_filter,
      decide_eq_true_eq] at hhit
    obtain ⟨-, -, text, htext, -⟩ := hhit
    rw [lastAssigns_iff] at hname htext
    exact nomatch hname.symm.trans htext

/-- **Hardcoded secrets are found as they are written.** The hits of a service are one on each name
that looks like a secret and is last given a text that is written out, in the order in which the
names first come; and an assignment that is repeated does not matter. -/
theorem findsSecrets_of_readsAs :
    (∀ {document : Document} {name : String} {tree : Tree} {service : Service},
      Manifest.ReadsAs name tree service →
        (∃ assignments, Manifest.Assigns tree assignments) ∧
        ∀ assignments, Manifest.Assigns tree assignments →
          FindsSecrets ⟨document, .standard⟩ service assignments) ∧
    ∀ (tables : RuleTables) {before : List Assignment} {assignment : Assignment},
      LastAssigns before assignment → ∀ after,
        givenAway tables (before ++ assignment :: after) = givenAway tables (before ++ after) := by
  refine ⟨fun {document name tree service} hread => ?_, fun _ _ _ h => givenAway_repeated h⟩
  obtain ⟨fields, environment, hfields, henvironment, hservice, -⟩ :=
    Manifest.environment_of_readsAs hread
  refine ⟨Manifest.exists_assigns hfields henvironment, fun assignments hassigns => ?_⟩
  obtain ⟨environment', kept, henvironment', hkept, hsome⟩ :=
    Manifest.exists_environment_of_assigns hassigns hfields
  obtain rfl : environment = environment' :=
    Checked.valid.inj (henvironment.symm.trans henvironment')
  refine findsSecrets_of_hits ?_
  rw [hits?_hardcodedSecrets (hservice.trans hkept)]
  rcases hsome with rfl | rfl
  · rfl
  · -- The reserved key contains none of the patterns.
    have hreserved : ¬ LooksSecret RuleTables.standard reservedKey := by
      rw [← isSecretName_iff]
      decide +kernel
    rw [givenAway_filter hreserved]

/-- An environment in which names are assigned several times. -/
def reassigning : Tree :=
  .mapping [("environment", .list [.text "API_KEY=one", .text "DB_PASSWORD=a=b", .text "TOKEN=x",
    .text "API_KEY=$\x7bKEY\x7d", .text "TOKEN", .text "SECRET=Example", .text "API_KEY=two"])]

/-- What is assigned in it. -/
def reassigned : List Assignment :=
  [("API_KEY", some "one"), ("DB_PASSWORD", some "a=b"), ("TOKEN", some "x"),
    ("API_KEY", some "$\x7bKEY\x7d"), ("TOKEN", none), ("SECRET", some "Example"),
    ("API_KEY", some "two")]

/-- The service that is read of it. -/
def reassigningService : Service where
  name := "web"
  environment := Environment.ofAssignments reassigned

/-- The last value of a name is found where the name first comes. -/
theorem findsSecrets_reassigning :
    Manifest.ReadsAs "web" reassigning reassigningService ∧
    Manifest.Assigns reassigning reassigned ∧
    FindsSecrets ⟨.empty "compose.yml", .standard⟩ reassigningService reassigned ∧
    hardcodedSecrets.hits? ⟨.empty "compose.yml", .standard⟩ reassigningService =
      some [⟨.high, "Service 'web' may have hardcoded secret in API_KEY"⟩,
        ⟨.high, "Service 'web' may have hardcoded secret in DB_PASSWORD"⟩] ∧
    LastAssigns reassigned ("TOKEN", none) ∧
    givenAway .standard (reassigned ++ [("TOKEN", none)]) = givenAway .standard reassigned := by
  have hread : Manifest.ReadsAs "web" reassigning reassigningService := ⟨_, rfl, rfl⟩
  have hassigns : Manifest.Assigns reassigning reassigned :=
    .list ⟨_, _, rfl, rfl, rfl⟩ <|
      .cons (.value rfl (by decide)) <| .cons (.value rfl (by decide)) <|
      .cons (.value rfl (by decide)) <| .cons (.value rfl (by decide)) <|
      .cons (.name (by decide)) <| .cons (.value rfl (by decide)) <|
      .cons (.value rfl (by decide)) .nil
  have hlast : LastAssigns reassigned ("TOKEN", none) :=
    ⟨reassigned.take 4, [("SECRET", some "Example"), ("API_KEY", some "two")], rfl, by decide⟩
  exact ⟨hread, hassigns, (findsSecrets_of_readsAs.1 hread).2 _ hassigns, by decide +kernel, hlast,
    findsSecrets_of_readsAs.2 .standard hlast []⟩

end Rule

end ComposeLint
