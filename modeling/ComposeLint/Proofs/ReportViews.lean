import ComposeLint.Proofs.FileByFile
import ComposeLint.Proofs.Replacement
import ComposeLint.Report.Text

/-!
# The views of a report

A report is shown as data and as text, and both tell what its findings are. The text is cut into
sections (`Report.sections`), one for each severity that occurs, with its findings in the order of
the report; the lines that count and the bullets are known by the mark that they begin with
(`Report.kindOf`), whatever a message says. `Report.Faithful` puts together what a reader may rely
on in either view, and `Report.faithful_ofFiles` says that every report is so.
-/

namespace ComposeLint

namespace Report

variable {report : Report}

/-! ## Sections -/

/-- The findings of each severity that occurs, in the order of presentation. -/
def sections (report : Report) : List (Severity × List Finding) :=
  (Severity.all.filter fun severity => 0 < report.counts.count severity).map fun severity =>
    (severity, report.findings.filter (·.severity = severity))

/-- The parts of a section: its heading and a bullet for each of its findings. -/
def sectionParts (shown : Severity × List Finding) : List String :=
  "" :: heading shown.1 :: shown.2.map bullet

/-- The counts of a report are those of its findings. -/
def Counted (report : Report) : Prop :=
  ∀ severity, report.counts.count severity =
    report.findings.countP fun finding => finding.severity = severity

theorem counted_ofFiles (files : List FileResult) : (ofFiles files).Counted :=
  SeverityCounts.count_tally _

/-- Findings put together by their severities are the findings in another order. -/
theorem flatMap_filter_severity_perm (findings : List Finding) :
    (Severity.all.flatMap fun severity => findings.filter (·.severity = severity)).Perm
      findings := by
  rw [List.perm_iff_count]
  intro finding
  have hone : ∀ severity, (findings.filter (·.severity = severity)).count finding =
      if finding.severity = severity then findings.count finding else 0 := by
    intro severity
    split
    · next h => exact List.count_filter (by simpa using h)
    · next h =>
      refine List.count_eq_zero.mpr fun hmem => h ?_
      simpa using (List.mem_filter.mp hmem).2
  simp only [Severity.all, List.flatMap_cons, List.flatMap_nil, List.count_append, hone]
  cases finding.severity <;> simp

theorem length_filter_severity (h : report.Counted) (severity : Severity) :
    (report.findings.filter (·.severity = severity)).length = report.counts.count severity := by
  rw [h severity, List.countP_eq_length_filter]

/-- What is put together from the sections is put together from all severities, if those that do not
occur add nothing. -/
theorem flatMap_sections {α : Type} {f : Severity × List Finding → List α} {g : Severity → List α}
    (hf : ∀ severity, 0 < report.counts.count severity →
      f (severity, report.findings.filter (·.severity = severity)) = g severity)
    (hg : ∀ severity, report.counts.count severity = 0 → g severity = []) :
    report.sections.flatMap f = Severity.all.flatMap g := by
  rw [sections, List.flatMap_map]
  induction Severity.all with
  | nil => rfl
  | cons severity rest ih =>
    rw [List.filter_cons, List.flatMap_cons, ← ih]
    split
    · next h => rw [List.flatMap_cons, hf severity (by simpa using h)]
    · next h => rw [hg severity (by simpa using h), List.nil_append]

/-- **Every finding is in one section**, and in it once. -/
theorem flatMap_sections_perm (h : report.Counted) :
    (report.sections.flatMap (·.2)).Perm report.findings := by
  have hsections : report.sections.flatMap (·.2) =
      Severity.all.flatMap fun severity => report.findings.filter (·.severity = severity) :=
    flatMap_sections (fun _ _ => rfl) fun severity hzero =>
      List.eq_nil_of_length_eq_zero ((length_filter_severity h severity).trans hzero)
  rw [hsections]
  exact flatMap_filter_severity_perm _

/-- The groups of the text are the sections. -/
theorem flatMap_group (h : report.Counted) :
    Severity.all.flatMap report.group = report.sections.flatMap sectionParts := by
  refine (flatMap_sections (fun severity hpos => ?_) fun severity hzero => ?_).symm
  · have hlength := length_filter_severity h severity
    rw [group]
    cases hfilter : report.findings.filter (·.severity = severity) with
    | nil => rw [hfilter] at hlength; simp at hlength; omega
    | cons finding rest => rfl
  · have hnil := List.eq_nil_of_length_eq_zero ((length_filter_severity h severity).trans hzero)
    rw [group, hnil]

/-! ## Kinds of parts -/

/-- What a part of the text is there for. -/
inductive PartKind where
  /-- It counts the findings of a severity. -/
  | count (severity : Severity)
  | heading (severity : Severity)
  | bullet
  | other
  deriving DecidableEq, Repr

/-- The kind of a part, as a reader sees it: a line with an indent is known by its next character,
and a heading by its text. -/
def kindOf (part : String) : PartKind :=
  match part.toList with
  | ' ' :: ' ' :: c :: _ =>
    if c = '•' then .bullet
    else
      match Severity.all.find? fun severity => severity.sign.toList.head? == some c with
      | some severity => .count severity
      | none => .other
  | _ =>
    match Severity.all.find? fun severity => heading severity == part with
    | some severity => .heading severity
    | none => .other

theorem kindOf_countLine (severity : Severity) :
    kindOf (report.countLine severity) = .count severity := by
  cases severity <;> simp [kindOf, countLine, Severity.sign, Severity.all]

theorem kindOf_heading (severity : Severity) : kindOf (heading severity) = .heading severity := by
  cases severity <;> decide

theorem kindOf_bullet (finding : Finding) : kindOf (bullet finding) = .bullet := by
  simp [kindOf, bullet]

/-- A part that begins like no count, no bullet and no heading is none of these. -/
theorem kindOf_eq_other {part : String}
    (h : ∀ c ∈ part.toList.head?, c ∉ [' ', 'H', 'M', 'L', 'I', 'E']) : kindOf part = .other := by
  have hheading : ∀ severity, heading severity ≠ part := by
    rintro severity rfl
    cases severity <;> simp [heading, Severity.name] at h
  have hnone : Severity.all.find? (fun severity => heading severity == part) = none :=
    List.find?_eq_none.mpr fun severity _ => by simpa using hheading severity
  rw [kindOf]
  split
  · next heq => simp [heq] at h
  · rw [hnone]

theorem kindOf_header : ∀ part ∈ report.header, kindOf part = .other := by
  intro part hpart
  refine kindOf_eq_other ?_
  simp only [header, List.mem_cons, List.not_mem_nil, or_false] at hpart
  rcases hpart with rfl | rfl | rfl | rfl | rfl | rfl | rfl <;>
    simp [rule, bannerWidth, List.replicate]

theorem kindOf_advice : ∀ part ∈ advice, kindOf part = .other := by
  decide

/-! ## The text -/

/-- What the text says of each severity: nothing but its count lines, its headings and its
bullets. -/
def telling (report : Report) : List String := report.parts.filter (kindOf · ≠ .other)

/-- Without findings there are no sections. -/
theorem sections_eq_nil (h : report.Counted) (hnone : report.findings = []) :
    report.sections = [] := by
  have hzero : ∀ severity, report.counts.count severity = 0 := fun severity => by
    rw [h severity, hnone, List.countP_nil]
  simp [sections, hzero]

/-- **The parts of the text, section by section.** -/
theorem parts_eq (h : report.Counted) :
    report.parts = report.header ++ report.sections.map (fun shown => report.countLine shown.1) ++
      if report.findings = [] then ["", "🎉 No security issues found!"]
      else ["", "Detailed findings:", rule '-' bannerWidth] ++
        report.sections.flatMap sectionParts ++ advice := by
  have hlines : report.countLines = report.sections.map fun shown => report.countLine shown.1 := by
    rw [countLines, sections, List.map_map]
    rfl
  rw [parts, hlines, details, flatMap_group h]
  simp only [List.isEmpty_iff]
  rfl

theorem filter_kindOf_sectionParts (shown : Severity × List Finding) :
    (sectionParts shown).filter (kindOf · ≠ .other) = heading shown.1 :: shown.2.map bullet := by
  have hempty : kindOf "" = .other := by decide
  have hbullets : (shown.2.map bullet).filter (kindOf · ≠ .other) = shown.2.map bullet := by
    simp [List.filter_map, Function.comp_def, kindOf_bullet]
  rw [sectionParts, List.filter_cons_of_neg (by simp [hempty]),
    List.filter_cons_of_pos (by simp [kindOf_heading]), hbullets]

/-- **What the text tells**: a count line for each severity that occurs, and then for each of these
its heading with a bullet for each of its findings. -/
theorem telling_eq (h : report.Counted) :
    report.telling = report.sections.map (fun shown => report.countLine shown.1) ++
      report.sections.flatMap fun shown => heading shown.1 :: shown.2.map bullet := by
  have hother : ∀ parts : List String, (∀ part ∈ parts, kindOf part = .other) →
      parts.filter (kindOf · ≠ .other) = [] := fun parts hparts =>
    List.filter_eq_nil_iff.mpr fun part hpart => by simp [hparts part hpart]
  have hlines : (report.sections.map fun shown => report.countLine shown.1).filter
      (kindOf · ≠ .other) = report.sections.map fun shown => report.countLine shown.1 := by
    simp [List.filter_map, Function.comp_def, kindOf_countLine]
  rw [telling, parts_eq h, List.filter_append, List.filter_append, hlines,
    hother _ kindOf_header, List.nil_append]
  congr 1
  split
  · next hnone =>
    rw [sections_eq_nil h hnone, hother _ (by decide)]
    rfl
  · rw [List.filter_append, List.filter_append, hother _ kindOf_advice, hother _ (by decide),
      List.nil_append, List.append_nil, List.filter_flatMap]
    exact List.flatMap_congr fun shown _ => filter_kindOf_sectionParts shown

theorem map_fst_sections (report : Report) : report.sections.map (·.1) =
    Severity.all.filter fun severity => 0 < report.counts.count severity := by
  rw [sections, List.map_map]
  exact List.map_id _

theorem mem_map_sections_iff (severity : Severity) :
    severity ∈ report.sections.map (·.1) ↔ 0 < report.counts.count severity := by
  have hall : severity ∈ Severity.all := by cases severity <;> decide
  simp [map_fst_sections, hall]

/-- **A severity is counted in the text exactly if it occurs.** -/
theorem countLine_mem_parts_iff (h : report.Counted) (severity : Severity) :
    report.countLine severity ∈ report.parts ↔ 0 < report.counts.count severity := by
  have hmem : report.countLine severity ∈ report.parts ↔
      report.countLine severity ∈ report.telling := by
    rw [telling, List.mem_filter]
    simp [kindOf_countLine severity]
  rw [hmem, telling_eq h, List.mem_append, ← mem_map_sections_iff]
  constructor
  · rintro (hline | hshown)
    · obtain ⟨shown, hmem, hline⟩ := List.mem_map.mp hline
      have hkind := congrArg kindOf hline
      rw [kindOf_countLine, kindOf_countLine, PartKind.count.injEq] at hkind
      exact hkind ▸ List.mem_map_of_mem hmem
    -- A heading or a bullet is of another kind.
    · obtain ⟨shown, -, hshown⟩ := List.mem_flatMap.mp hshown
      have hkind : kindOf (report.countLine severity) = .count severity := kindOf_countLine severity
      obtain hheading | hbullet := List.mem_cons.mp hshown
      · rw [hheading, kindOf_heading] at hkind
        cases hkind
      · obtain ⟨finding, -, hfinding⟩ := List.mem_map.mp hbullet
        rw [← hfinding, kindOf_bullet] at hkind
        cases hkind
  · intro hseverity
    obtain ⟨shown, hshown, rfl⟩ := List.mem_map.mp hseverity
    exact .inl (List.mem_map_of_mem hshown)

/-- **Every bullet of the text is that of a finding**, section by section. -/
theorem filter_kindOf_bullet (h : report.Counted) :
    report.parts.filter (kindOf · = .bullet) = (report.sections.flatMap (·.2)).map bullet := by
  have htelling : report.parts.filter (kindOf · = .bullet) =
      report.telling.filter (kindOf · = .bullet) := by
    rw [telling, List.filter_filter]
    refine List.filter_congr fun part _ => ?_
    cases kindOf part <;> rfl
  have hlines : (report.sections.map fun shown => report.countLine shown.1).filter
      (kindOf · = .bullet) = [] := by
    simp [List.filter_map, Function.comp_def, kindOf_countLine]
  rw [htelling, telling_eq h, List.filter_append, hlines, List.nil_append, List.filter_flatMap,
    List.map_flatMap]
  refine List.flatMap_congr fun shown _ => ?_
  have hbullets : (shown.2.map bullet).filter (kindOf · = .bullet) = shown.2.map bullet := by
    simp [List.filter_map, Function.comp_def, kindOf_bullet]
  rw [List.filter_cons_of_neg (by simp [kindOf_heading]), hbullets]

/-! ## The structured report -/

/-- Findings that are shown alike as data are the same. -/
theorem findingTree_injective : Function.Injective findingTree := by
  intro finding finding' h
  have hname : ∀ severity severity' : Severity, severity.name = severity'.name →
      severity = severity' := by
    intro severity severity' h
    cases severity <;> cases severity' <;> simp [Severity.name] at h ⊢
  cases finding with
  | mk severity category message file rule service =>
    cases finding' with
    | mk severity' category' message' file' rule' service' =>
      cases service <;> cases service' <;> simp [findingTree] at h ⊢ <;>
        simp [h, hname _ _ h.1]

theorem tree_entries? (report : Report) : report.tree.entries? = some
    [("findings", .list (report.findings.map findingTree)), ("summary", report.counts.tree),
      ("total_files", .nat report.filesScanned),
      ("total_findings", .nat report.findings.length)] := by
  have hkeys : position? "findings" = none ∧ position? "summary" = none ∧
      position? "total_files" = none ∧ position? "total_findings" = none := by decide
  rw [tree, Tree.entries?_mapping, readingOrder_eq_self (by simp) (by simpa using hkeys)]

theorem counts_entries? (counts : SeverityCounts) : counts.tree.entries? = some
    (Severity.all.map fun severity => (severity.name, .nat (counts.count severity))) := by
  have hkeys : ∀ severity ∈ Severity.all, position? severity.name = none := by decide
  rw [SeverityCounts.tree, Tree.entries?_mapping, readingOrder_eq_self]
  · simp [Severity.all, Severity.name]
  · exact List.forall_mem_map.mpr hkeys

theorem child?_findings (report : Report) : report.tree.child? (.key "findings") =
    some (.list (report.findings.map findingTree)) := by
  rw [Tree.child?, tree_entries?]
  rfl

/-- Reports that are the same as data have the same findings. -/
theorem findings_eq_of_tree_eq {other : Report} (h : other.tree = report.tree) :
    other.findings = report.findings := by
  have hlist := congrArg (Tree.child? · (.key "findings")) h
  simp only [child?_findings, Option.some.injEq, Tree.list.injEq] at hlist
  exact List.map_injective_iff.mpr findingTree_injective hlist

/-! ## Faithful reports -/

/-- What a reader of either view of a report may rely on. -/
structure Faithful (report : Report) : Prop where
  counted : report.Counted
  /-- All counts together are the number of the findings. -/
  total : report.counts.high + report.counts.medium + report.counts.low + report.counts.info +
    report.counts.error = report.findings.length
  /-- The data has the findings in the same order. -/
  data_findings : report.tree.child? (.key "findings") =
    some (.list (report.findings.map findingTree))
  /-- No finding is shown as another one. -/
  data_injective : ∀ other : Report, other.tree = report.tree → other.findings = report.findings
  /-- The data has the same counts, in the order of presentation. -/
  data_counts : (report.tree.child? (.key "summary")).bind Tree.entries? =
    some (Severity.all.map fun severity => (severity.name, .nat (report.counts.count severity)))
  data_total : report.tree.child? (.key "total_findings") = some (.nat report.findings.length)
  text_parts : report.text = Text.joined "\n" report.parts
  /-- A count line stands in the text exactly for a severity that occurs. -/
  countLine_mem : ∀ severity,
    report.countLine severity ∈ report.parts ↔ 0 < report.counts.count severity
  /-- There is a section for each severity that occurs, in the order of presentation. -/
  sections_severities : report.sections.map (·.1) =
    Severity.all.filter fun severity => 0 < report.counts.count severity
  /-- A section has the findings of its severity in the order of the report, as many as are
  counted. -/
  sections_findings : ∀ shown ∈ report.sections,
    shown.2 = report.findings.filter (·.severity = shown.1) ∧
      shown.2.length = report.counts.count shown.1
  /-- Every finding is in one section. -/
  sections_perm : (report.sections.flatMap (·.2)).Perm report.findings
  parts : report.parts = report.header ++
    report.sections.map (fun shown => report.countLine shown.1) ++
      if report.findings = [] then ["", "🎉 No security issues found!"]
      else ["", "Detailed findings:", rule '-' bannerWidth] ++
        report.sections.flatMap sectionParts ++ advice
  /-- Nothing else in the text counts, heads or lists findings. -/
  telling : report.telling = report.sections.map (fun shown => report.countLine shown.1) ++
    report.sections.flatMap fun shown => heading shown.1 :: shown.2.map bullet
  bullets : report.parts.filter (kindOf · = .bullet) = (report.sections.flatMap (·.2)).map bullet

theorem sum_counts (h : report.Counted) : report.counts.high + report.counts.medium +
    report.counts.low + report.counts.info + report.counts.error = report.findings.length := by
  have hlength := (flatMap_filter_severity_perm report.findings).length_eq
  simp only [Severity.all, List.flatMap_cons, List.flatMap_nil, List.length_append,
    length_filter_severity h, SeverityCounts.count, List.length_nil] at hlength
  omega

/-- **Every report tells the same story in all its views.** -/
theorem faithful_ofFiles (files : List FileResult) :
    (ofFiles files).findings = files.flatMap (·.findings) ∧ (ofFiles files).Faithful := by
  have h := counted_ofFiles files
  refine ⟨rfl, h, sum_counts h, ?_, fun _ => findings_eq_of_tree_eq, ?_, ?_, rfl,
    countLine_mem_parts_iff h, map_fst_sections _, ?_, flatMap_sections_perm h, parts_eq h,
    telling_eq h, filter_kindOf_bullet h⟩
  · exact child?_findings _
  · rw [Tree.child?, tree_entries?]
    exact counts_entries? _
  · rw [Tree.child?, tree_entries?]
    rfl
  · intro shown hshown
    obtain ⟨severity, -, rfl⟩ := List.mem_map.mp hshown
    exact ⟨rfl, length_filter_severity h severity⟩

end Report
end ComposeLint
