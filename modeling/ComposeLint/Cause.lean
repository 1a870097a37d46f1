import ComposeLint.Guidance
import ComposeLint.Tree.Json

/-!
# Causes of failure

What an audit fails for is an error that it knows, and each of these has a message
(`Cause.message`). A rule may raise any other value besides (`Raised`). A raised value is reported
in its text, which not every value has: `Raised.text` asks for the JSON text of a value and, where
there is none, for the text that the value gives of itself, and either may fail and raise another
value.
-/

namespace ComposeLint

/-- Why something failed. -/
inductive Cause where
  /-- An error that is known by its message alone. -/
  | error (message : String)
  /-- A manifest that cannot be read. -/
  | parse (message : String) (path : Option String) (guidance : Option Guidance)
  /-- A policy profile that is unknown or invalid; the one cause that ends a run. -/
  | policy (message : String) (guidance : Option Guidance)
  /-- A rule that failed on a service, or on the whole document, and the text of what it raised. -/
  | rule (ruleId : String) (service : Option String) (reason : String)
  deriving Repr, Inhabited

namespace Cause

/-- The text of a failed rule. A service without a name is not mentioned. -/
def ruleMessage (ruleId : String) (service : Option String) (reason : String) : String :=
  match service.filter (· != "") with
  | some name => "Rule '" ++ ruleId ++ "' failed for service '" ++ name ++ "': " ++ reason
  | none => "Rule '" ++ ruleId ++ "' failed: " ++ reason

/-- The text in which a cause is reported. -/
def message : Cause → String
  | error message => message
  | parse message _ _ => message
  | policy message _ => message
  | rule ruleId service reason => ruleMessage ruleId service reason

/-- The code of an error that an audit knows. -/
def code? : Cause → Option String
  | parse .. => some "PARSE_ERROR"
  | policy .. => some "POLICY_CONFIGURATION_ERROR"
  | rule .. => some "RULE_EVALUATION_ERROR"
  | _ => none

/-- The guidance that goes with a cause. -/
def guidance? : Cause → Option Guidance
  | parse _ _ guidance => guidance
  | policy _ guidance => guidance
  | _ => none

/-- The file that a cause is about. -/
def path? : Cause → Option String
  | parse _ path _ => path
  | _ => none

end Cause

/-- A value that is raised. -/
inductive Raised where
  /-- An error with a message. -/
  | cause (error : Cause)
  /-- Data. -/
  | data (tree : Tree)
  /-- Any other value: the JSON text that it has, lacks, or fails to give, and the text that it
  gives of itself or fails to give. -/
  | foreign (json : Except Raised (Option String)) (own : Except Raised String)
  deriving Inhabited

namespace Raised

/-- The text of raised data: its own text, the text of its entry `message`, or else its JSON
text. -/
def dataText (data : Tree) : String :=
  match data with
  | .text s => s
  | _ =>
    match (data.entries?.getD []).lookup "message" with
    | some (.text s) => s
    | _ => data.json

/-- **The text in which a raised value is reported**, or what is raised where it is asked for. A
value is asked for its own text where it has no JSON text and where it fails to give one. -/
def text : Raised → Except Raised String
  | cause error => .ok error.message
  | data tree => .ok (dataText tree)
  | foreign (.ok (some json)) _ => .ok json
  | foreign (.ok none) own => own
  | foreign (.error _) own => own

end Raised
end ComposeLint
