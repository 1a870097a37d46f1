import ComposeLint.CommandLine.Arguments
import ComposeLint.CommandLine.Suggestion
import ComposeLint.CommandLine.Usage

/-!
# The command line

Arguments either ask for a text or for a run of the command. `CommandLine.run` answers them with
a `Transcript`: everything that is written to the two outputs, the number that the process
ends with, and the files afterwards. A run without an outcome has no transcript.
-/

namespace ComposeLint

/-- What comes of a command line. -/
structure Transcript where
  code : Nat
  out : String := ""
  err : String := ""
  files : FileTree
  /-- The log records that are kept. -/
  records : List LogRecord := []

namespace CommandLine

/-- The version of the command. -/
def version : String := "1.0.0"

/-- The number that a process ends with whose arguments are refused. -/
def refusedCode : Nat := 1

/-- The wording of a fault. -/
def faultText : ArgumentFault → String
  | .missingValue flag => "error: option '" ++ flag.term ++ "' argument missing"
  | .unknownFlag argument =>
    "error: unknown option '" ++ argument ++ "'" ++ Suggestion.text argument

/-- Texts as they are written, each with a line end. -/
def written (texts : List String) : String := String.join (texts.map (· ++ "\n"))

/-- The least level of the records that a run keeps. -/
def leastLevel (environment : Variables) (options : Options) : LogLevel :=
  match options.logLevel, Settings.ofVariables environment with
  | some level, _ => level
  | none, .valid settings => settings.effectiveLogLevel
  | none, _ => .silent

/-- The transcript of a run. -/
def transcript (outcome : Outcome) (least : LogLevel) : Transcript :=
  { code := outcome.status.code, out := written outcome.out, err := written outcome.err
    files := outcome.files, records := LogRecord.kept least outcome.records }

/-- Options as the command takes them. -/
def optionsTree (paths : List String) (options : Table Tree) : Tree :=
  .mapping (("paths", .texts paths) :: options.entries)

/-- The transcript of a request for a run. -/
def runOptions (around : Command.Surroundings) (paths : List String) (options : Table Tree) :
    Except Discovery.SearchFault Transcript :=
  match Options.parse (.texts paths) (.mapping options.entries) with
  | .ok valid =>
    (Command.run around (some (optionsTree paths options))).map fun outcome =>
      transcript outcome (leastLevel around.environment valid)
  | .error failure =>
    .ok
      { code := ExitStatus.configurationError.code
        err := written ["❌ " ++ failure.message, "\nUse --help for usage information"]
        files := around.files }

/-- **Answers a command line.** -/
def run (around : Command.Surroundings) (arguments : List String) :
    Except Discovery.SearchFault Transcript :=
  match Request.ofArguments arguments with
  | .version => .ok { code := 0, out := written [version], files := around.files }
  | .usage => .ok { code := 0, out := Usage.text, files := around.files }
  | .refused fault =>
    .ok { code := refusedCode, err := written [faultText fault], files := around.files }
  | .run paths options => runOptions { around with version } paths options

/-- The transcript of a run that failed for no reason that it knows. -/
def failed (around : Command.Surroundings) (fault : Discovery.SearchFault) : Transcript :=
  { code := ExitStatus.configurationError.code
    err := written ["❌ Unexpected error: " ++ fault.message], files := around.files }

end CommandLine
end ComposeLint
