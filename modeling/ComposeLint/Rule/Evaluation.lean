import ComposeLint.Rule.Catalog
import ComposeLint.Log

/-!
# Running rules

An `Engine` is a list of rules with distinct ids, and the tables they consult. On a document
every rule is invoked once for each service, or once for the document; `invocations` lists the
outcomes in order. Findings and log records are both read off that list: an invocation that
succeeds gives its hits, and one that fails gives a single finding about the failure, and a
warning.

The finding about a failure says what was raised. Where this has no text the evaluation itself
fails, with what is raised instead of the text, and reports nothing at all; `Engine.evaluate?` is
an evaluation with its failures. `Engine.evaluate` collects the findings of the invocations that
can be reported. These are the findings of the evaluation wherever it has any, as it has with the
rules of the catalog, which raise nothing.
-/

namespace ComposeLint

/-- Rules with distinct ids, and the tables they consult. -/
structure Engine where
  rules : List Rule
  tables : RuleTables
  distinct : (Rule.ids rules).Nodup

/-- One rule applied to one service, or to the document. -/
structure Invocation where
  rule : Rule
  service : Option String
  outcome : Except Raised (List Hit)

namespace Invocation

/-- The category of findings about failed rules. -/
def failureCategory : String := "Rule Evaluation"

/-- A hit as a finding of a rule. -/
def finding (rule : Rule) (service : Option String) (path : String) (hit : Hit) : Finding :=
  { severity := hit.severity, category := rule.category, message := hit.message
    sourceFile := path, ruleId := rule.id, serviceName := service }

/-- The failure of a rule as a cause, from the text of what it raised. -/
def failure (rule : Rule) (service : Option String) (reason : String) : Cause :=
  .rule rule.id service reason

/-- The finding about a failed rule. -/
def failureFinding (rule : Rule) (service : Option String) (path reason : String) : Finding :=
  { severity := .error, category := failureCategory
    message := (failure rule service reason).message
    sourceFile := path, ruleId := rule.id, serviceName := service }

/-- The warning about a failed rule. -/
def failureWarning (rule : Rule) (service : Option String) (path reason : String) : LogRecord :=
  let named :=
    match service with
    | some name => [("service", Tree.text name)]
    | none => []
  { level := .warn
    fields := ("ruleId", .text rule.id) :: named ++
      [("file", .text path), ("error", .text (failure rule service reason).message)]
    message := "Rule evaluation failed" }

/-- What comes of an invocation: its findings, or what is raised instead of the text of what it
raised. -/
def findings? (path : String) (invocation : Invocation) : Except Raised (List Finding) :=
  match invocation.outcome with
  | .ok hits => .ok (hits.map (finding invocation.rule invocation.service path))
  | .error raised =>
    raised.text.map fun reason =>
      [failureFinding invocation.rule invocation.service path reason]

/-- The findings of an invocation that can be reported. -/
def findings (path : String) (invocation : Invocation) : List Finding :=
  (invocation.findings? path).toOption.getD []

/-- The warning about a failed invocation that can be reported. -/
def warning? (path : String) (invocation : Invocation) : Option LogRecord :=
  match invocation.outcome with
  | .ok _ => none
  | .error raised =>
    raised.text.toOption.map (failureWarning invocation.rule invocation.service path)

/-- The invocations of one rule on a document. -/
def ofRule (tables : RuleTables) (document : Document) (rule : Rule) : List Invocation :=
  let context : RuleContext := { document, tables }
  match rule.inspection with
  | .document check => [{ rule, service := none, outcome := check context }]
  | .service check =>
    document.services.values.map fun service =>
      { rule, service := some service.name, outcome := check service context }

end Invocation

namespace Engine

/-- The first id that occurs a second time. -/
def repeatedId? (seen : List String) : List Rule → Option String
  | [] => none
  | rule :: rest =>
    if seen.contains rule.id then some rule.id else repeatedId? (rule.id :: seen) rest

/-- The error about a repeated id. -/
def repeatedIdCause (id : String) : Cause := .error ("Duplicate rule id: " ++ id)

theorem repeatedId?_eq_none {rules : List Rule} : ∀ {seen : List String},
    repeatedId? seen rules = none →
      (Rule.ids rules).Nodup ∧ ∀ id ∈ Rule.ids rules, id ∉ seen := by
  induction rules with
  | nil => intro seen _; simp [Rule.ids]
  | cons rule rest ih =>
    intro seen h
    unfold repeatedId? at h
    split at h
    · simp at h
    · next hs =>
      obtain ⟨distinct, unseen⟩ := ih h
      have fresh : rule.id ∉ seen := by simpa using hs
      constructor
      · exact List.nodup_cons.2 ⟨fun hm => unseen _ hm (by simp), distinct⟩
      · intro id hm
        rcases List.mem_cons.1 hm with rfl | hm
        · exact fresh
        · exact fun hin => unseen id hm (List.mem_cons_of_mem _ hin)

/-- The engine of some rules; refused when two of them share an id. -/
def create? (rules : List Rule) (tables : RuleTables) : Except Cause Engine :=
  match h : repeatedId? [] rules with
  | some id => .error (repeatedIdCause id)
  | none => .ok { rules, tables, distinct := (repeatedId?_eq_none h).1 }

/-- All invocations on a document, rule by rule and service by service. -/
def invocations (engine : Engine) (document : Document) : List Invocation :=
  engine.rules.flatMap (Invocation.ofRule engine.tables document)

/-- **The evaluation of a document**, which fails at the first invocation that cannot be
reported. -/
def evaluate? (engine : Engine) (document : Document) : Except Raised (List Finding) :=
  (engine.invocations document).flatMapM (Invocation.findings? document.path)

/-- **The findings of a document**: those of the invocations that can be reported. -/
def evaluate (engine : Engine) (document : Document) : List Finding :=
  (engine.invocations document).flatMap (Invocation.findings document.path)

/-- The invocations up to the first that cannot be reported. -/
def reported (engine : Engine) (document : Document) : List Invocation :=
  (engine.invocations document).takeWhile fun invocation =>
    (invocation.findings? document.path).isOk

/-- The log records of an evaluation: its warnings, and a summary where it does not fail. -/
def records (engine : Engine) (document : Document) : List LogRecord :=
  (engine.reported document).filterMap (Invocation.warning? document.path) ++
    match engine.evaluate? document with
    | .ok findings =>
      [{ level := .debug
         fields := [("file", .text document.path), ("services", .nat document.services.size),
           ("findings", .nat findings.length)]
         message := "Rules evaluated" }]
    | .error _ => []

/-- The engine of a selection of the catalog. -/
def selected (bestPractices : Bool) (tables : RuleTables) : Engine where
  rules := Rule.selected bestPractices
  tables := tables
  distinct := by cases bestPractices <;> decide

end Engine
end ComposeLint
