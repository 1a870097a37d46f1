import ComposeLint.CommandLine
import ComposeLint.Text.Utf8
import ComposeLint.Tree.Json
import ComposeLint.Yaml.Stream

/-!
# The program

Reads the files that a command line can be about, lets `CommandLine.run` answer it, and writes
what the answer says: the texts, the log, and the files that are not as they were before.
-/

namespace ComposeLint.Program

/-- The variables that have a meaning for a run. -/
def variableNames : List String :=
  ["LOG_LEVEL", "AUDIT_PROFILE", "AUDIT_PROFILE_FILE", "AUDIT_REPORT_FILE", "NODE_ENV"]

/-- The variables of the environment. -/
def readVariables : IO Variables :=
  variableNames.filterMapM fun name => do
    return (← IO.getEnv name).map fun value => (name, value)

/-- The text of a file. -/
def readText (path : String) : IO String := do
  let bytes ← IO.FS.readBinFile path
  return String.ofList (Text.Utf8.decode (bytes.toList.map UInt8.toNat))

/-- The tree with the file at a place. -/
def addFile (tree : FileTree) (place : Place) : IO FileTree := do
  if (tree.text? place).isSome then return tree
  return { tree with files := (place, ← readText (FileTree.pathOf place)) :: tree.files }

/-- Names of directories that are not searched and whose files are read only when they are named. -/
def closedNames : List String := ["node_modules", ".git"]

/-- The tree with everything below a directory. -/
partial def addDirectory (tree : FileTree) (place : Place) : IO FileTree := do
  let tree := { tree with directories := place :: tree.directories }
  let directory ← IO.FS.realPath (FileTree.pathOf place)
  (← directory.readDir).foldlM
    (fun tree entry => do
      let inner := place ++ [entry.fileName]
      if ← entry.path.isDir then
        if closedNames.contains entry.fileName then return tree else addDirectory tree inner
      else addFile tree inner)
    tree

/-- The tree with what is at a place, and with the directory it lies in. -/
def addPlace (tree : FileTree) (place : Place) : IO FileTree := do
  let path ← try IO.FS.realPath (FileTree.pathOf place.dropLast) catch _ => return tree
  let tree := { tree with directories := place.dropLast :: tree.directories }
  let whole ← try IO.FS.realPath (FileTree.pathOf place) catch _ => return tree
  if ← whole.isDir then addDirectory tree place
  else if ← path.isDir then addFile tree place
  else return tree

/-- The paths that an argument can hold: all of it, and what follows an equals sign. -/
def pathsIn (argument : String) : List String :=
  match Text.cutFirst? (· == '=') argument.toList with
  | some (_, value) => [argument, String.ofList value]
  | none => [argument]

/-- The files below the working directory, and those that arguments and variables name. -/
def readFiles (arguments : List String) (environment : Variables) : IO FileTree := do
  let location := FileTree.resolve [] (toString (← IO.currentDir))
  let empty : FileTree := { location, files := [], directories := [] }
  let tree ← addDirectory empty location
  let named := (arguments ++ environment.map Prod.snd).flatMap pathsIn
  ((named.filter (· != "")).map (FileTree.resolve location)).foldlM addPlace tree

/-- Writes the files that are not as they were before. -/
def writeFiles (before after : FileTree) : IO Unit :=
  after.files.forM fun (place, text) => do
    if before.text? place != some text then IO.FS.writeFile (FileTree.pathOf place) text

/-- A record as a line. -/
def recordLine (record : LogRecord) : String :=
  (Tree.mapping ([("level", .text record.level.name), ("name", .text "cli")] ++ record.fields ++
    [("msg", .text record.message)])).json

end ComposeLint.Program

open ComposeLint in
/-- Runs the command. -/
def main (arguments : List String) : IO UInt32 := do
  let environment ← Program.readVariables
  let files ← Program.readFiles arguments environment
  let around := { load := Yaml.load, environment, files }
  let transcript :=
    match CommandLine.run around arguments with
    | .ok transcript => transcript
    | .error fault => CommandLine.failed around fault
  transcript.records.forM fun record => IO.eprintln (Program.recordLine record)
  IO.print transcript.out
  IO.eprint transcript.err
  Program.writeFiles files transcript.files
  return transcript.code.toUInt32
