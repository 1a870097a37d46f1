import ComposeLint.FileTree
import ComposeLint.Manifest.Parsing
import ComposeLint.Report
import ComposeLint.Rule.Evaluation

/-!
# Auditing files

Each file of a run has one outcome: it cannot be read, or it is no manifest, or it is a
document. Findings and log records are read off the outcome. A file that gives no document
gives exactly one finding, which says so; it never keeps other files from being audited. The
findings of a document are `Engine.evaluate`: what the rules of an audit raise has a text, as with
the rules of the catalog, which raise nothing.
-/

namespace ComposeLint

/-- What became of a file. -/
inductive FileOutcome where
  | unreadable (fault : FileFault)
  | malformed (fault : ParseFault)
  | parsed (document : Document)

namespace FileOutcome

/-- The id under which files that give no document are reported. -/
def faultRuleId : String := "file-processing"

/-- The category of findings about such files. -/
def faultCategory : String := "File Processing"

/-- The finding about a file that gives no document. -/
def faultFinding (path reason : String) : Finding :=
  { severity := .error, category := faultCategory
    message := "Failed to process " ++ path ++ ": " ++ reason
    sourceFile := path, ruleId := faultRuleId, serviceName := none }

/-- The outcome of the file of a path as seen from a place. -/
def of (load : TreeLoader) (tree : FileTree) (place : Place) (path : String) : FileOutcome :=
  match tree.readPlace (FileTree.resolve place path) with
  | .error fault => .unreadable fault
  | .ok content =>
    match Document.parse load path content with
    | .error fault => .malformed fault
    | .ok document => .parsed document

/-- The findings of an outcome. -/
def findings (engine : Engine) (path : String) : FileOutcome → List Finding
  | unreadable fault => [faultFinding path fault.message]
  | malformed fault => [faultFinding path fault.message]
  | parsed document => engine.evaluate document

/-- The log records of an outcome. -/
def records (engine : Engine) (path : String) : FileOutcome → List LogRecord
  | unreadable fault =>
    [{ level := .warn
       fields := [("file", .text path), ("error", .text fault.message)]
       message := "Manifest is not readable" }]
  | malformed fault =>
    let guidance :=
      match (fault.failure path).guidance with
      | some guidance => [("guidance", guidance.tree)]
      | none => []
    [{ level := .warn
       fields := [("file", .text path), ("error", .text fault.message)] ++ guidance
       message := "Manifest is malformed" }]
  | parsed document =>
    engine.records document ++
      [{ level := .debug
         fields :=
           [("file", .text path), ("findings", .nat (engine.evaluate document).length)]
         message := "Audited manifest" }]

end FileOutcome

/-- What an audit works with. -/
structure Audit where
  load : TreeLoader
  engine : Engine
  tree : FileTree
  /-- Where relative paths start. -/
  place : Place

namespace Audit

/-- The outcome of a file. -/
def outcome (audit : Audit) (path : String) : FileOutcome :=
  .of audit.load audit.tree audit.place path

/-- The result of a file. -/
def fileResult (audit : Audit) (path : String) : FileResult :=
  { path, findings := (audit.outcome path).findings audit.engine path }

/-- **The report on some files**, in their order. -/
def report (audit : Audit) (paths : List String) : Report :=
  .ofFiles (paths.map audit.fileResult)

/-- The log records of an audit. -/
def records (audit : Audit) (paths : List String) : List LogRecord :=
  let context := [("files", Tree.nat paths.length)]
  .starting "audit" context ::
    paths.flatMap (fun path => (audit.outcome path).records audit.engine path) ++
    [.completed "audit" context [("findings", .nat (audit.report paths).findings.length)]]

end Audit
end ComposeLint
