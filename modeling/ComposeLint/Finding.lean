/-!
# Findings

A finding is one reported risk, or one thing that could not be audited. It carries all that a
report or a policy needs to know about it.
-/

namespace ComposeLint

/-- How grave a finding is; `error` marks what could not be audited. -/
inductive Severity where
  | high | medium | low | info | error
  deriving DecidableEq, Repr

namespace Severity

/-- All severities in the order of presentation. -/
def all : List Severity := [high, medium, low, info, error]

/-- The name of a severity. -/
def name : Severity → String
  | high => "HIGH"
  | medium => "MEDIUM"
  | low => "LOW"
  | info => "INFO"
  | error => "ERROR"

/-- The severities by their names. -/
def names : List (String × Severity) := all.map fun s => (s.name, s)

/-- The sign in front of a severity in a text report. -/
def sign : Severity → String
  | high => "🚨"
  | medium => "⚠️"
  | low => "💡"
  | info => "ℹ️"
  | error => "💥"

end Severity

/-- One reported risk. -/
structure Finding where
  severity : Severity
  category : String
  message : String
  sourceFile : String
  ruleId : String
  /-- The service that the finding is about; absent when it is about the whole file. -/
  serviceName : Option String
  deriving DecidableEq, Repr

end ComposeLint
