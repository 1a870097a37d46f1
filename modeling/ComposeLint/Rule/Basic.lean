import ComposeLint.Cause
import ComposeLint.Service
import ComposeLint.Rule.Tables

/-!
# Rules

A rule looks for one kind of risk, in each service on its own or in the document as a whole,
and reports hits. It keeps no state. A rule may fail and raise any value; what a failure does to an
audit is decided where rules are run.
-/

namespace ComposeLint

/-- What a rule reports. -/
structure Hit where
  severity : Severity
  message : String
  deriving DecidableEq, Repr

/-- What a rule may look at besides the service at hand. -/
structure RuleContext where
  document : Document
  tables : RuleTables

/-- How a rule looks at a document. -/
inductive Inspection where
  /-- Once for each service. -/
  | service (check : Service → RuleContext → Except Raised (List Hit))
  /-- Once. -/
  | document (check : RuleContext → Except Raised (List Hit))

/-- A rule and what is told about it. -/
structure Rule where
  /-- The name by which policy profiles know the rule. -/
  id : String
  name : String
  category : String
  description : String
  remediation : String
  inspection : Inspection

namespace Rule

/-- Whether the rule looks at services or at the document. -/
def scope (rule : Rule) : String :=
  match rule.inspection with
  | .service _ => "service"
  | .document _ => "document"

/-! ## Categories -/

def containerSecurity : String := "Container Security"
def networkSecurity : String := "Network Security"
def volumeSecurity : String := "Volume Security"
def secretManagement : String := "Secret Management"
def imageSecurity : String := "Image Security"
def bestPractice : String := "Best Practice"

/-! ## Building checks -/

/-- A check of services that needs nothing but the tables and never fails. -/
def perService (check : Service → RuleTables → List Hit) : Inspection :=
  .service fun service context => .ok (check service context.tables)

/-- One hit when the condition holds. -/
def hitIf (condition : Bool) (severity : Severity) (message : String) : List Hit :=
  if condition then [⟨severity, message⟩] else []

/-- A text about a service: `Service 'name' …`. -/
def about (service : Service) (rest : String) : String :=
  "Service '" ++ service.name ++ "' " ++ rest

end Rule
end ComposeLint
