import ComposeLint.Command
import ComposeLint.Text.Blank

/-!
# Flags

A flag is an argument that sets an option or asks for something else than a run. `Flag.all` is
the one table of them: arguments are read by it, the help is printed from it, and suggestions
are drawn from it.
-/

namespace ComposeLint

/-- What a flag does. -/
inductive FlagEffect where
  /-- Tells the version at once, whatever the other arguments are. -/
  | tellVersion
  /-- Tells how to use the command. -/
  | tellUsage
  /-- Sets an option to a fixed value. -/
  | set (option : String) (value : Bool)
  /-- Sets an option to the argument that follows. -/
  | take (option label : String)
  /-- Adds the arguments that follow to an option, up to the next flag. -/
  | gather (option label : String)
  deriving DecidableEq, Repr

/-- A flag. -/
structure Flag where
  short : Option String := none
  long : String
  effect : FlagEffect
  description : String
  /-- The value of the option when the flag is not given. -/
  standard : Option String := none
  deriving DecidableEq, Repr

namespace Flag

/-- The flags, in the order in which they are shown. -/
def all : List Flag :=
  [{ short := some "-V", long := "--version", effect := .tellVersion
     description := "output the version number" },
    { long := "--cwd", effect := .take "cwd" "<dir>"
      description :=
        "directory to discover and resolve files from (default: current directory)" },
    { long := "--profile", effect := .take "profile" "<name>"
      description := "built-in policy profile (default: " ++ Profile.defaultName ++ ")" },
    { long := "--profile-file", effect := .take "profileFile" "<path>"
      description := "custom policy profile in YAML or JSON" },
    { long := "--format", effect := .take "format" "<format>"
      description := "report format: text or json", standard := some Format.text.name },
    { long := "--report-file", effect := .take "reportFile" "<path>"
      description := "JSON report file (default: " ++ Command.defaultReportFile ++ ")" },
    { long := "--no-report-file", effect := .set "reportFile" false
      description := "do not write the JSON report file" },
    { long := "--best-practices", effect := .set "bestPractices" true
      description := "also run healthcheck and restart policy checks" },
    { long := "--trusted-registry", effect := .gather "trustedRegistry" "<host...>"
      description := "additional trusted image registries" },
    { long := "--log-level", effect := .take "logLevel" "<level>"
      description := "logging level: debug, info, warn, error (default: warn)" },
    { long := "--list-rules", effect := .set "listRules" true
      description := "list registered rules and exit" },
    { long := "--list-profiles", effect := .set "listProfiles" true
      description := "list built-in policy profiles and exit" },
    { short := some "-h", long := "--help", effect := .tellUsage
      description := "display help for command" }]

/-- Whether an argument is the flag. -/
def isNamed (flag : Flag) (argument : String) : Bool :=
  argument == flag.long || flag.short == some argument

/-- The flag that an argument is, if its effect takes place while arguments are read. -/
def find? (argument : String) : Option Flag :=
  all.find? fun flag => flag.effect != .tellUsage && flag.isNamed argument

/-- Whether an argument asks for help. -/
def asksForHelp (argument : String) : Bool :=
  all.any fun flag => flag.effect == .tellUsage && flag.isNamed argument

/-- Whether an argument looks like a flag: it starts with a dash and goes on. -/
def isLike (argument : String) : Bool :=
  match argument.toList with
  | '-' :: _ :: _ => true
  | _ => false

/-- The label of the value that a flag takes. -/
def label? (flag : Flag) : Option String :=
  match flag.effect with
  | .take _ label => some label
  | .gather _ label => some label
  | _ => none

/-- A flag as it is shown: its names, and the label of its value. -/
def term (flag : Flag) : String :=
  let names := (flag.short.map (· ++ ", ")).getD "" ++ flag.long
  match flag.label? with
  | some label => names ++ " " ++ label
  | none => names

/-- The options that hold when no flag is given. -/
def standards : List (String × Tree) :=
  all.filterMap fun flag =>
    match flag.effect, flag.standard with
    | .take option _, some value => some (option, .text value)
    | _, _ => none

end Flag
end ComposeLint
