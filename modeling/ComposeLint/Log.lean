import ComposeLint.Text.Case
import ComposeLint.Tree

/-!
# Log records

What happens during a run is told in records: a level, named fields and a message. Whoever
runs an audit gets all records, in order, and keeps those from a level on.
-/

namespace ComposeLint

/-- The levels of a log, from the gravest; `silent` keeps nothing. -/
inductive LogLevel where
  | fatal | error | warn | info | debug | trace | silent
  deriving DecidableEq, Repr

namespace LogLevel

/-- All levels in order. -/
def all : List LogLevel := [fatal, error, warn, info, debug, trace, silent]

/-- The name of a level. -/
def name : LogLevel → String
  | fatal => "fatal"
  | error => "error"
  | warn => "warn"
  | info => "info"
  | debug => "debug"
  | trace => "trace"
  | silent => "silent"

/-- The levels by their names. -/
def names : List (String × LogLevel) := all.map fun l => (l.name, l)

/-- How grave a level is. -/
def weight : LogLevel → Nat
  | fatal => 60
  | error => 50
  | warn => 40
  | info => 30
  | debug => 20
  | trace => 10
  | silent => 100

end LogLevel

/-- One record of a log. -/
structure LogRecord where
  level : LogLevel
  /-- Named data; of a repeated name the last value counts. -/
  fields : List (String × Tree)
  message : String
  deriving Repr

namespace LogRecord

/-- The records that a log keeps whose least level is `least`. -/
def kept (least : LogLevel) (records : List LogRecord) : List LogRecord :=
  records.filter fun record => least.weight ≤ record.level.weight

/-- The placeholder for a duration in a message; how long something took is no part of a record. -/
def someTime : String := "<N>ms"

/-- The record of the start of an operation. -/
def starting (operation : String) (context : List (String × Tree)) : LogRecord :=
  { level := .debug
    fields := ("operation", .text operation) :: context
    message := "Starting " ++ operation }

/-- The record of the end of an operation. -/
def completed (operation : String) (context more : List (String × Tree)) : LogRecord :=
  { level := .debug
    fields := ("operation", .text operation) :: context ++ more
    message := "Completed " ++ operation ++ " in " ++ someTime }

end LogRecord

/-! ## Loggers -/

/-- Names that everything with named parts answers to. A logger takes each of them for the name of
a level, but there is no such level. -/
def inheritedNames : List String :=
  ["constructor", "hasOwnProperty", "isPrototypeOf", "propertyIsEnumerable", "toLocaleString",
    "toString", "valueOf", "__defineGetter__", "__defineSetter__", "__lookupGetter__",
    "__lookupSetter__", "__proto__"]

/-- A logger: the name it signs with and the least level it keeps, if it has one. -/
structure Logger where
  name : String
  level : Option LogLevel
  deriving Repr

namespace Logger

/-- The name of a logger that is given none. -/
def defaultName : String := "compose-audit"

/-- The name of a level as a logger looks it up: case does not matter, except in `silent`. -/
def levelName (wanted : String) : String :=
  let small := Text.lowered wanted
  let isKnown := small != LogLevel.silent.name && (LogLevel.names.lookup small).isSome
  if isKnown || inheritedNames.contains small then small else wanted

/-- A logger with the given name and level, or with the level of the environment, or else with
`info`. A level that does not exist is refused by its name. -/
def create? (name level environment : Option String) : Except String Logger :=
  let wanted := levelName ((level.or environment).getD LogLevel.info.name)
  let name := name.getD defaultName
  match LogLevel.names.lookup wanted with
  | some level => .ok { name, level := some level }
  | none =>
    if inheritedNames.contains wanted then .ok { name, level := none }
    else .error ("default level:" ++ wanted ++ " must be included in custom levels")

end Logger
end ComposeLint
