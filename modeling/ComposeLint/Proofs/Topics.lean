import ComposeLint.Proofs.LetterCase
import ComposeLint.Proofs.Presentation
import ComposeLint.Proofs.Splitting

/-!
# What a failure is taken for

The steps that a run advises when it fails are chosen by words in the message. For the profile this
does what it is there for (`ProfileFault.helps_profile`): whatever the reason is that a run has no
profile, it gets the steps for profiles. The other failure that a run tells of is a report that
cannot be written, and its message holds the path of the report. So it is taken for a matter of the
profile exactly if the path has that word in it (`Command.helps_profile_iff`), as in
`profiles/audit.json`.
-/

namespace ComposeLint

open Text (HasWord)

/-! ## Lines of a text -/

namespace Text

variable {word : List Char} {parts others : List String}

theorem intercalate_isInfix {α : Type} (sep : α) {xs ys : List (List α)} (h : xs <:+: ys) :
    [sep].intercalate xs <:+: [sep].intercalate ys := by
  obtain ⟨before, after, rfl⟩ := h
  cases xs with
  | nil => exact List.nil_infix
  | cons x xs =>
    have hahead : [sep].intercalate (x :: xs) <+: [sep].intercalate (x :: xs ++ after) := by
      cases after with
      | nil => rw [List.append_nil]
      | cons y after =>
        rw [intercalate_append_cons sep (List.cons_ne_nil x xs)]
        exact List.prefix_append _ _
    have hbehind : [sep].intercalate (x :: xs ++ after) <:+
        [sep].intercalate (before ++ (x :: xs ++ after)) := by
      rw [List.cons_append]
      by_cases hnil : before = []
      · rw [hnil, List.nil_append]
      · rw [intercalate_append_cons sep hnil]
        exact (List.suffix_cons _ _).trans (List.suffix_append _ _)
    rw [List.append_assoc]
    exact hahead.isInfix.trans hbehind.isInfix

/-- **Lines next to each other stand in the whole as they are joined.** -/
theorem lines_isInfix (h : parts <:+: others) :
    (joined "\n" parts).toList <:+: (joined "\n" others).toList := by
  simp only [joined, String.toList_intercalate]
  exact intercalate_isInfix '\n' (h.map _)

/-- **A word that has no line end is found line by line.** -/
theorem infix_lines_iff (hne : word ≠ []) (hend : '\n' ∉ word) :
    word <:+: (joined "\n" parts).toList ↔ ∃ part ∈ parts, word <:+: part.toList := by
  simp only [joined, String.toList_intercalate]
  induction parts with
  | nil => simp [hne]
  | cons part parts ih =>
    rw [List.exists_mem_cons_iff, ← ih]
    cases parts with
    | nil => simp [hne]
    | cons next parts =>
      simp only [List.map_cons]
      rw [List.intercalate_cons_cons, List.append_assoc]
      exact infix_append_cons_iff hend

end Text

/-! ## Failures and the topic of profiles -/

namespace Cause

variable {cause : Cause} {topic : Topic}

/-- Whether the steps for a topic are told about a failure. -/
def Helps (topic : Topic) (cause : Cause) : Prop :=
  (Text.joined "\n" topic.helpSection).toList <:+: cause.troubleshooting.toList

/-- Whether a failure is one of the policy. -/
def IsPolicy (cause : Cause) : Prop := ∃ message guidance, cause = policy message guidance

/-- What the message is about is told. -/
theorem helps_of_topic (h : Topic.of? cause.message = some topic) : cause.Helps topic := by
  refine Text.lines_isInfix ?_
  rw [troubleshootingParts, h]
  exact ⟨_, _, rfl⟩

end Cause

namespace Topic

variable {message : String}

theorem isAsciiWord_profile : Text.IsAsciiWord "profile".toList where
  ascii := by
    have hall : "profile".toList.all (·.toNat < 0x80) = true := by decide
    simpa only [List.all_eq_true, decide_eq_true_eq] using hall
  kelvin := by decide
  dotted := by decide

/-- **A message is about the profile if it has that word**, because this topic comes first. -/
theorem of?_eq_profile_iff :
    of? message = some .profile ↔ HasWord "profile".toList message.toList := by
  rw [← Text.contains_lowered_iff isAsciiWord_profile, of?, words, List.find?_cons]
  cases hword : Text.contains (Text.lowered message) "profile" with
  | true => simp [hword]
  | false =>
    refine iff_of_false (fun h => ?_) Bool.false_ne_true
    obtain ⟨entry, hfind, htopic⟩ := Option.map_eq_some_iff.mp h
    -- The topics that are left are others.
    simp only [List.any_cons, hword, List.any_nil, Bool.or_false] at hfind
    have hmem := List.mem_of_find?_eq_some hfind
    simp only [List.mem_cons, List.not_mem_nil, or_false] at hmem
    obtain rfl | rfl := hmem <;> cases htopic

end Topic

namespace Cause

variable {cause : Cause}

/-- What is told after the message and its guidance, by the topic of the message. -/
def lastParts (topic? : Option Topic) : List String :=
  (topic?.map Topic.helpSection).getD [] ++
    "" :: "🛠️ General troubleshooting steps:" :: (Report.numbered generalSteps).map ("  " ++ ·)

theorem not_infix_of_mem_lastParts : ∀ topic?, topic? ≠ some .profile →
    ∀ part ∈ lastParts topic?, ¬ "profile".toList <:+: part.toList := by
  rintro (_ | _ | _ | _) hother
  · decide +kernel
  · exact absurd rfl hother
  · decide +kernel
  · decide +kernel

theorem troubleshootingParts_of_guidance?_eq_none (h : cause.guidance? = none) :
    cause.troubleshootingParts =
      ("🔍 Error: " ++ cause.message) :: lastParts (Topic.of? cause.message) := by
  have hlines : cause.guidanceLines = [] := by
    rw [guidanceLines, h]
  rw [troubleshootingParts, hlines]
  rfl

/-- Where no guidance comes with a failure, only its topic tells of profiles. -/
theorem of?_of_helps_profile (hguidance : cause.guidance? = none) (h : cause.Helps .profile) :
    Topic.of? cause.message = some .profile := by
  have hline : ∀ {parts : List String}, "profile".toList <:+: (Text.joined "\n" parts).toList ↔
      ∃ part ∈ parts, "profile".toList <:+: part.toList :=
    Text.infix_lines_iff (by decide) (by decide)
  have hword : "profile".toList <:+: cause.troubleshooting.toList :=
    List.IsInfix.trans (hline.mpr ⟨Topic.profile.title, by simp [Topic.helpSection], by decide⟩) h
  obtain ⟨part, hpart, hfound⟩ := hline.mp hword
  rw [troubleshootingParts_of_guidance?_eq_none hguidance, List.mem_cons] at hpart
  obtain rfl | hlast := hpart
  · have hmessage := HasWord.of_isInfix (by decide) hfound
    rw [String.toList_append, Text.hasWord_label_append (by decide) (by decide)] at hmessage
    exact Topic.of?_eq_profile_iff.mpr hmessage
  · by_contra hother
    exact not_infix_of_mem_lastParts _ hother _ hlast hfound

/-- **A failure that comes without guidance gets the steps for profiles if its message has the
word.**
-/
theorem helps_profile_iff_hasWord (hguidance : cause.guidance? = none) :
    cause.Helps .profile ↔ HasWord "profile".toList cause.message.toList := by
  rw [← Topic.of?_eq_profile_iff]
  exact ⟨of?_of_helps_profile hguidance, helps_of_topic⟩

end Cause

/-- **Whatever the reason is that there is no profile, the steps for profiles are told.** -/
theorem ProfileFault.helps_profile (fault : ProfileFault) : fault.cause.Helps .profile := by
  have happend : ∀ {first rest : String}, HasWord "profile".toList first.toList →
      HasWord "profile".toList (first ++ rest).toList := fun h => by
    rw [String.toList_append]
    exact h.append_right _
  refine Cause.helps_of_topic (Topic.of?_eq_profile_iff.mpr ?_)
  cases fault with
  | unreadable path fault => exact happend (happend (happend (by decide)))
  | notLoaded path text => exact happend (happend (happend (by decide)))
  | wrongShape path issues => exact happend (happend (happend (by decide)))
  | unknownName name => exact happend (by decide)
  | unknownRules name ids => exact happend (happend (happend (by decide)))

theorem ProfileFault.isPolicy_cause (fault : ProfileFault) : fault.cause.IsPolicy :=
  ⟨_, _, rfl⟩

/-! ## Paths in messages -/

namespace FileTree

variable {tree : FileTree} {path text : String} {place : Place} {steps : List String}
  {fault : FileFault}

/-- A path as the messages about its file show it. -/
def shownPath (path : String) : String := if '\x00' ∈ path.toList then Text.shown path else path

/-- The faults that a path without null characters can have when it is written. -/
def writeFaults (path : String) : List FileFault :=
  [.missing path, .notADirectory path, .writesDirectory path, .tooLong path]

theorem mem_writeFaults_of_walk (h : tree.walk path place steps = .error fault) :
    fault ∈ writeFaults path := by
  induction steps generalizing place with
  | nil => cases h
  | cons name rest ih =>
    rw [walk] at h
    split at h
    · next found hblocked =>
      cases h
      rw [blocked?] at hblocked
      split at hblocked
      · cases hblocked
      · split at hblocked <;> cases hblocked <;> simp [writeFaults]
    · split at h
      · cases h
        simp [writeFaults]
      · exact ih h

theorem mem_writeFaults_of_follow (hnull : '\x00' ∉ path.toList)
    (h : tree.follow path = .error fault) : fault ∈ writeFaults path := by
  have hrefused : refused? path = if pathLimit < path.utf8ByteSize then some (.tooLong path)
      else none := by
    simp [refused?, nullFault?, hnull]
  rw [follow, hrefused] at h
  split at h
  · next found hlong =>
    cases h
    rw [Option.ite_none_right_eq_some, Option.some.injEq] at hlong
    simp [writeFaults, ← hlong.2]
  · split at h
    · cases h
      simp [writeFaults]
    · exact mem_writeFaults_of_walk h

/-- **What is wrong with a file that cannot be written**, by its path. -/
theorem write_eq_error (h : tree.write place text = .error fault) :
    '\x00' ∈ (pathOf place).toList ∧ fault = .nullCharacter (pathOf place) ∨
      '\x00' ∉ (pathOf place).toList ∧ fault ∈ writeFaults (pathOf place) := by
  by_cases hnull : '\x00' ∈ (pathOf place).toList
  · have hrefused : refused? (pathOf place) = some (.nullCharacter (pathOf place)) := by
      simp [refused?, nullFault?, hnull]
    rw [write, follow, hrefused] at h
    cases h
    exact .inl ⟨hnull, rfl⟩
  · refine .inr ⟨hnull, ?_⟩
    rw [write] at h
    cases hfollow : tree.follow (pathOf place) with
    | error found =>
      rw [hfollow] at h
      cases h
      exact mem_writeFaults_of_follow hnull hfollow
    | ok target =>
      simp only [hfollow, bind, Except.bind] at h
      split at h
      · cases h
        simp [writeFaults]
      · cases h

theorem hasWord_append_quote {text : String} :
    HasWord "profile".toList (text ++ "'").toList ↔ HasWord "profile".toList text.toList := by
  have hlist : (text ++ "'").toList = text.toList ++ '\'' :: [] := String.toList_append
  rw [hlist, Text.hasWord_append_cons_iff (by decide)]
  exact or_iff_left (by decide)

/-- **The message about a file that cannot be written has the word if the path in it has.** -/
theorem hasWord_message_of_write_eq_error (h : tree.write place text = .error fault) :
    HasWord "profile".toList fault.message.toList ↔
      HasWord "profile".toList (shownPath (pathOf place)).toList := by
  -- A quotation mark or a blank sets the path off from the words before it.
  have hlabel : ∀ {label rest : String}, ¬ HasWord "profile".toList label.toList →
      label.toList.getLast?.all (·.toLower ∉ "profile".toList) = true →
        (HasWord "profile".toList (label ++ rest).toList ↔
          HasWord "profile".toList rest.toList) := fun hnone hlast => by
    rw [String.toList_append]
    exact Text.hasWord_label_append hnone hlast
  obtain ⟨hnull, rfl⟩ | ⟨hnull, hfault⟩ := write_eq_error h
  · have hshown : shownPath (pathOf place) = Text.shown (pathOf place) := if_pos hnull
    rw [hshown]
    exact hlabel (by decide +kernel) (by decide)
  · have hshown : shownPath (pathOf place) = pathOf place := if_neg hnull
    rw [hshown]
    simp only [writeFaults, List.mem_cons, List.not_mem_nil, or_false] at hfault
    obtain rfl | rfl | rfl | rfl := hfault
    all_goals exact hasWord_append_quote.trans (hlabel (by decide) (by decide))

end FileTree

/-! ## Failures of a run -/

namespace Command

variable {around : Surroundings} {raw : Option Tree} {cause : Cause}

/-- The failures that end a run and of which it tells. -/
inductive EndsWith (around : Surroundings) (raw : Option Tree) : Cause → Prop
  /-- No profile can be used. -/
  | profile {options : Options} {settings : Settings} {fault : ProfileFault} :
      Configured around raw options settings → ¬ Lists options →
        selectProfile around options settings = .error fault → EndsWith around raw fault.cause
  /-- The report of an audit cannot be written. -/
  | report {options : Options} {settings : Settings} {profile : Profile} {paths : List String}
      {path : String} {fault : FileFault} :
      Configured around raw options settings → ¬ Lists options →
        selectProfile around options settings = .ok profile →
          manifestPaths around options = .ok paths → reportFile? options settings = some path →
            writeReport around.files (workingPlace around options) path
              (found around options paths) = .error fault →
                EndsWith around raw (.error fault.message)

/-- Whether the path that a report is to be written to has the word for profiles in it, as far as a
message shows it. -/
def ReportNamesProfile (around : Surroundings) (raw : Option Tree) : Prop :=
  ∃ options settings path, Configured around raw options settings ∧
    reportPath? around options settings = some path ∧
      HasWord "profile".toList (FileTree.shownPath path).toList

/-- What is read of a run is read in one way. -/
theorem Configured.eq_and_eq {options options' : Options} {settings settings' : Settings}
    (h : Configured around raw options settings) (h' : Configured around raw options' settings') :
    options' = options ∧ settings' = settings :=
  ⟨Checked.valid.inj (h'.options.symm.trans h.options),
    Checked.valid.inj (h'.settings.symm.trans h.settings)⟩

/-- **What a run tells of the failure that ends it.** -/
theorem EndsWith.told (h : EndsWith around raw cause) :
    ∃ outcome, run around raw = .ok outcome ∧ outcome.status = .configurationError ∧
      outcome.err = [cause.troubleshooting] := by
  cases h with
  | profile hconfigured hnot hselect =>
    rw [run, plan_of_not_lists hconfigured hnot, auditPlan, hselect]
    exact ⟨_, rfl, rfl, rfl⟩
  | @report options settings profile paths path fault hconfigured hnot hselect hpaths hpath
      hwrite =>
    have hsaved : (session around ⟨options, settings, profile⟩ paths).saved = .error fault := by
      have hreport : (session around ⟨options, settings, profile⟩ paths).reportFile = some path :=
        hpath
      rw [Session.saved, hreport]
      exact hwrite
    rw [run_of_selected hconfigured hnot hselect, hpaths, Except.map, Session.outcome, hsaved]
    exact ⟨_, rfl, rfl, rfl⟩

/-- An audit fails only if its report cannot be written. -/
theorem exists_of_configurationError {plan : AuditPlan} {paths : List String}
    (h : (session around plan paths).outcome.status = .configurationError) :
    ∃ path fault, reportFile? plan.options plan.settings = some path ∧
      writeReport around.files (workingPlace around plan.options) path
        (found around plan.options paths) = .error fault := by
  cases hsaved : (session around plan paths).saved with
  | ok files =>
    rw [Session.outcome, hsaved] at h
    change (session around plan paths).status = _ at h
    rw [Session.status] at h
    split at h <;> cases h
  | error fault =>
    cases hreport : (session around plan paths).reportFile with
    | none =>
      rw [Session.saved, hreport] at hsaved
      cases hsaved
    | some path =>
      rw [Session.saved, hreport] at hsaved
      exact ⟨path, fault, hreport, hsaved⟩

/-- **A run that is configured and ends with a failure has one to tell of.** -/
theorem exists_endsWith {options : Options} {settings : Settings} {outcome : Outcome}
    (hconfigured : Configured around raw options settings) (hrun : run around raw = .ok outcome)
    (hstatus : outcome.status = .configurationError) : ∃ cause, EndsWith around raw cause := by
  by_cases hlists : Lists options
  · rw [run, plan_of_lists hconfigured hlists] at hrun
    cases hrun
    cases hstatus
  cases hselect : selectProfile around options settings with
  | error fault => exact ⟨_, .profile hconfigured hlists hselect⟩
  | ok profile =>
    rw [run_of_selected hconfigured hlists hselect] at hrun
    cases hpaths : manifestPaths around options with
    | error fault =>
      rw [hpaths] at hrun
      cases hrun
    | ok paths =>
      rw [hpaths] at hrun
      obtain rfl := Except.ok.inj hrun
      obtain ⟨path, fault, hpath, hwrite⟩ := exists_of_configurationError hstatus
      exact ⟨_, .report hconfigured hlists hselect hpaths hpath hwrite⟩

/-- **Words of a report path are taken for what the failure is about.** -/
theorem EndsWith.helps_iff (h : EndsWith around raw cause) :
    cause.Helps .profile ↔ cause.IsPolicy ∨ ReportNamesProfile around raw := by
  cases h with
  | @profile _ _ fault _ _ _ =>
    exact iff_of_true fault.helps_profile (.inl fault.isPolicy_cause)
  | @report options settings profile paths path fault hconfigured _ _ _ hpath hwrite =>
    have hpolicy : ¬ (Cause.error fault.message).IsPolicy := fun ⟨_, _, h⟩ => by cases h
    rw [Cause.helps_profile_iff_hasWord rfl, or_iff_right hpolicy]
    refine (FileTree.hasWord_message_of_write_eq_error hwrite).trans
      ⟨fun hword => ⟨options, settings, _, hconfigured, ?_, hword⟩, ?_⟩
    · rw [reportPath?, hpath]
      rfl
    · rintro ⟨options', settings', path', hconfigured', hpath', hword⟩
      obtain ⟨rfl, rfl⟩ := hconfigured.eq_and_eq hconfigured'
      rw [reportPath?, hpath] at hpath'
      cases hpath'
      exact hword

/-- **Which failures get the steps for profiles.** A run that is configured and fails tells of one
failure. One of the policy gets the steps, whatever the profile, its file and its content are. A
report that cannot be written gets them exactly if its path has the word for profiles in it, in
letters of any case, and so does any failure that is known by its message alone. -/
theorem helps_profile_iff (around : Surroundings) (raw : Option Tree) :
    (∀ options settings outcome, Configured around raw options settings →
      run around raw = .ok outcome → outcome.status = .configurationError →
        ∃ cause, EndsWith around raw cause) ∧
    (∀ cause, EndsWith around raw cause →
      (∃ outcome, run around raw = .ok outcome ∧ outcome.status = .configurationError ∧
        outcome.err = [cause.troubleshooting]) ∧
      (cause.Helps .profile ↔ cause.IsPolicy ∨ ReportNamesProfile around raw)) ∧
    ∀ message : String,
      (Cause.error message).Helps .profile ↔ HasWord "profile".toList message.toList :=
  ⟨fun _ _ _ => exists_endsWith, fun _ h => ⟨h.told, h.helps_iff⟩,
    fun _ => Cause.helps_profile_iff_hasWord rfl⟩

/-- Options that ask for the report at a path. -/
def reportOptions (path : String) : Option Tree := some (.mapping [("reportFile", .text path)])

theorem check_reportOptions (path : String) :
    Options.check (reportOptions path) = .valid { reportTarget := some (.file path) } := by
  refine Options.check_eq_valid_iff.mpr ⟨_, congrArg some (readingOrder_singleton _), ?_⟩
  constructor <;> rfl

/-- A run that finds no manifests still writes a report. -/
theorem endsWith_reportOptions {path : String} {fault : FileFault}
    (hwrite : ∀ text, bareSurroundings.files.write (FileTree.resolve ["work"] path) text =
      .error fault) : EndsWith bareSurroundings (reportOptions path) (.error fault.message) := by
  have hconfigured : Configured bareSurroundings (reportOptions path)
      { reportTarget := some (.file path) } {} := ⟨check_reportOptions path, rfl⟩
  have hplace : workingPlace bareSurroundings { reportTarget := some (.file path) } = ["work"] := by
    change FileTree.resolve ["work"] "" = ["work"]
    decide
  have hpaths : ∃ paths,
      manifestPaths bareSurroundings { reportTarget := some (.file path) } = .ok paths := by
    rw [exists_manifestPaths_eq_ok_iff, hplace]
    exact fun h => absurd h.2 (by decide)
  obtain ⟨paths, hpaths⟩ := hpaths
  refine .report hconfigured (by simp [Lists]) Profile.select_default hpaths rfl ?_
  rw [writeReport, hplace]
  exact hwrite _

/-- A report for which there is no directory is not taken for a matter of the profile. -/
theorem not_helps_profile_reports :
    EndsWith bareSurroundings (reportOptions "reports/audit.json")
        (.error (FileFault.missing "/work/reports/audit.json").message) ∧
      ¬ (Cause.error (FileFault.missing "/work/reports/audit.json").message).Helps .profile := by
  have hends : EndsWith bareSurroundings (reportOptions "reports/audit.json")
      (.error (FileFault.missing "/work/reports/audit.json").message) :=
    endsWith_reportOptions fun _ => rfl
  obtain ⟨-, hiff⟩ :=
    (helps_profile_iff bareSurroundings (reportOptions "reports/audit.json")).2.1 _ hends
  refine ⟨hends, fun hhelps => ?_⟩
  obtain ⟨_, _, hpolicy⟩ | ⟨options, settings, path, hconfigured, hpath, hword⟩ := hiff.mp hhelps
  · cases hpolicy
  · obtain ⟨rfl, rfl⟩ := Configured.eq_and_eq ⟨check_reportOptions _, rfl⟩ hconfigured
    cases hpath
    exact absurd hword (by decide)

/-- **Not only failures of the policy get the steps for profiles.** -/
theorem not_forall_helps_profile_iff_isPolicy :
    ¬ ∀ around raw cause, EndsWith around raw cause →
      (cause.Helps .profile ↔ cause.IsPolicy) := by
  intro h
  have hends : EndsWith bareSurroundings (reportOptions "profiles/audit.json")
      (.error (FileFault.missing "/work/profiles/audit.json").message) :=
    endsWith_reportOptions fun _ => rfl
  obtain ⟨_, _, hpolicy⟩ := (h _ _ _ hends).mp
    (Cause.helps_of_topic (Topic.of?_eq_profile_iff.mpr (by decide)))
  cases hpolicy

end Command

end ComposeLint
