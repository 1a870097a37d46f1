import ComposeLint.CommandLine.Flag

/-!
# Arguments

Arguments are read from left to right. A flag that is known takes effect where it stands. From
the first argument on that looks like a flag and is unknown, what is no known flag is set aside;
whether that is a mistake is only said at the end, because a request for help that was set aside
too goes before it.
-/

namespace ComposeLint

/-- Why arguments ask for no run. -/
inductive ArgumentFault where
  | missingValue (flag : Flag)
  | unknownFlag (argument : String)
  deriving DecidableEq, Repr

/-- What arguments ask for. -/
inductive Request where
  | version
  | usage
  | refused (fault : ArgumentFault)
  | run (paths : List String) (options : Table Tree)

/-- What has been read of the arguments. -/
structure Arguments where
  paths : List String := []
  /-- Arguments that are set aside; the first one looks like a flag. -/
  aside : List String := []
  options : Table Tree := .ofList Flag.standards
  /-- The option that the next arguments are added to. -/
  gathering : Option String := none

namespace Arguments

/-- Takes arguments that are no flags. -/
def leave (read : Arguments) (arguments : List String) : Arguments :=
  if read.aside.isEmpty then { read with paths := read.paths ++ arguments }
  else { read with aside := read.aside ++ arguments }

/-- Takes the arguments after the end of the flags. -/
def finish (read : Arguments) (arguments : List String) : Arguments :=
  read.leave (if read.aside.isEmpty then arguments else "--" :: arguments)

/-- Sets an argument aside that looks like a flag and is unknown. -/
def setAside (read : Arguments) (argument : String) : Arguments :=
  { read with aside := read.aside ++ [argument], gathering := none }

/-- Sets an option. -/
def set (read : Arguments) (option : String) (value : Tree) : Arguments :=
  { read with options := read.options.insert option value, gathering := none }

/-- Adds a value to an option and expects more of them. -/
def gather (read : Arguments) (option value : String) : Arguments :=
  let values :=
    match read.options.get? option with
    | some (.list values) => values
    | _ => []
  { read with
    options := read.options.insert option (.list (values ++ [.text value]))
    gathering := some option }

/-- Takes an argument that is not a flag. -/
def takePlain (read : Arguments) (argument : String) : Arguments :=
  match read.gathering with
  | some option => read.gather option argument
  | none => read.leave [argument]

/-- The flag and its value in an argument that holds both. -/
def assigned? (argument : String) : Option (Flag × String) :=
  match Text.cutFirst? (· == '=') argument.toList with
  | none => none
  | some (name, value) =>
    match Flag.find? (String.ofList name) with
    | some flag => if flag.label?.isSome then some (flag, String.ofList value) else none
    | none => none

/-- The flag whose short name an argument starts with. -/
def started? (argument : String) : Option Flag :=
  Flag.find? (String.ofList (argument.toList.take 2))

/-- Takes an argument that looks like a flag but is none by itself. A short flag may have other
letters after it, and a value may follow its flag after an equals sign. -/
def takeCompound (read : Arguments) (argument : String) : Except Request Arguments :=
  match started? argument with
  | some { effect := .tellVersion, .. } => .error .version
  | _ =>
    match assigned? argument with
    | some ({ effect := .take option _, .. }, value) => .ok (read.set option (.text value))
    | some ({ effect := .gather option _, .. }, value) =>
      .ok { read.gather option value with gathering := none }
    | _ => .ok (read.setAside argument)

/-- **Reads arguments** after those that have been read. -/
def reading (read : Arguments) : List String → Except Request Arguments
  | [] => .ok read
  | argument :: rest =>
    if argument = "--" then .ok (read.finish rest)
    else if !Flag.isLike argument then (read.takePlain argument).reading rest
    else
      match Flag.find? argument with
      | none =>
        match read.takeCompound argument with
        | .ok read => read.reading rest
        | .error request => .error request
      | some flag =>
        match flag.effect with
        | .tellVersion => .error .version
        | .tellUsage => .error .usage
        | .set option value => (read.set option (.bool value)).reading rest
        | .take option _ =>
          match rest with
          | value :: rest => (read.set option (.text value)).reading rest
          | [] => .error (.refused (.missingValue flag))
        | .gather option _ =>
          match rest with
          | value :: rest => (read.gather option value).reading rest
          | [] => .error (.refused (.missingValue flag))
termination_by structural arguments => arguments

/-- What the arguments that have been read ask for. -/
def request (read : Arguments) : Request :=
  if read.aside.any Flag.asksForHelp then .usage
  else
    match read.aside with
    | argument :: _ => .refused (.unknownFlag argument)
    | [] => .run read.paths read.options

end Arguments

/-- **What arguments ask for.** -/
def Request.ofArguments (arguments : List String) : Request :=
  match Arguments.reading {} arguments with
  | .ok read => read.request
  | .error request => request

end ComposeLint
