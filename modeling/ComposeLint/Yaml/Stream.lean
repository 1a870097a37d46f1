import ComposeLint.Yaml.Excerpt
import ComposeLint.Yaml.Node

/-!
# Documents

A text is a stream of documents. Directives may stand in front of a document and hold for it
alone. `Yaml.load` reads the only document of a text; a text without any gives no tree, and one
with several is refused.
-/

namespace ComposeLint.Yaml

open Reading

/-! ## Directives -/

/-- What directives have declared for a document. -/
structure Declared where
  hasDirectives : Bool := false
  hasVersion : Bool := false

/-- The major version of a text such as `1.2`. -/
def majorVersion? (text : List Char) : Option Nat :=
  let (major, rest) := Number.spanDigits text
  match rest with
  | '.' :: minor =>
    if major.isEmpty || minor.isEmpty || !minor.all Char.isDigit then none
    else some (Number.digitsValue major)
  | _ => none

/-- Obeys a directive that gives a version. -/
def declareVersion (declared : Declared) (arguments : List (List Char)) : Reading Declared := do
  if declared.hasVersion then fail .repeatedVersion
  match arguments with
  | [argument] =>
    match majorVersion? argument with
    | none => fail .illFormedVersion
    | some major =>
      if major != 1 then fail .unacceptableVersion
      return { declared with hasVersion := true }
  | _ => fail .versionArguments

/-- Obeys a directive that gives a meaning to a tag handle. -/
def declareHandle (arguments : List (List Char)) : Reading Unit := do
  match arguments with
  | [handle, start] =>
    let name := String.ofList handle
    if !Property.isHandle handle then fail .illFormedHandle
    if ((← get).handles.lookup name).isSome then fail (.repeatedHandle name)
    if !Property.isTag start then fail .illFormedHandlePrefix
    match Property.unescaped? start with
    | none => fail (.malformedHandlePrefix (String.ofList start))
    | some start =>
      modify fun state =>
        { state with handles := (name, String.ofList start) :: state.handles }
  | _ => fail .tagArguments

/-- Reads the arguments of a directive up to the end of its line. -/
def readArguments : Nat → List (List Char) → Cursor → List (List Char) × Cursor
  | 0, arguments, cursor => (arguments.reverse, cursor)
  | budget + 1, arguments, cursor =>
    let next := (cursor.span isSpace).2
    match next.peek with
    | none => (arguments.reverse, next)
    | some c =>
      if c == '#' then (arguments.reverse, (next.span fun c => !isBreak c).2)
      else if isBreak c then (arguments.reverse, next)
      else
        let (argument, stop) := next.span fun c => !isGap c
        readArguments budget (argument :: arguments) stop

/-- Reads a directive behind its percent sign and obeys it; unknown ones have no effect. -/
def readDirective (budget : Nat) (declared : Declared) : Reading Declared := do
  step
  let (name, next) := (← place).span fun c => !isGap c
  goTo next
  if name.isEmpty then fail .namelessDirective
  let (arguments, next) := readArguments budget [] next
  goTo ((next.lineBreak?).getD next)
  let declared := { declared with hasDirectives := true }
  match String.ofList name with
  | "YAML" => declareVersion declared arguments
  | "TAG" =>
    declareHandle arguments
    return declared
  | _ => return declared

/-- Reads the directives in front of a document. -/
def readDirectives (budget : Nat) : Nat → Declared → Reading Declared
  | 0, declared => return declared
  | count + 1, declared => do
    if (← place).rest.isEmpty then return declared
    let _ ← skip
    let here ← place
    if here.lineIndent = 0 && here.peek == some '%' then
      readDirectives budget count (← readDirective budget declared)
    else return declared

/-! ## Documents -/

/-- Whether a line of three hyphens begins at a place. -/
def opensDocument (cursor : Cursor) : Bool :=
  cursor.lineIndent = 0 && ['-', '-', '-'].isPrefixOf cursor.rest

/-- The place behind three characters. -/
def pastThree (cursor : Cursor) : Cursor := cursor.step.step.step

/-- Whether at most the last line end is left of a text. -/
def isAtEnd (cursor : Cursor) : Bool := cursor.rest.tail.isEmpty

/-- A node as a tree of its own. -/
def asDocument (node : Node) : Reading Tree := do
  let state ← get
  if state.hasRings then
    return tied state.drafts (state.drafts.size + 1) [] node.value
  else return node.value

/-- Reads a document. -/
def readDocument (budget : Nat) : Reading Tree := do
  modify fun state => { state with anchors := [], handles := [] }
  let declared ← readDirectives budget budget {}
  let _ ← skip
  if opensDocument (← place) then
    goTo (pastThree (← place))
    let _ ← skip
  else if declared.hasDirectives then fail .directivesEnd
  let indent : Int := (← place).lineIndent - 1
  let node ← readNode budget maxDepth
    { indent, setting := .blockOut, maySeek := false, mayBeCompact := true }
  let _ ← skip
  let here ← place
  if here.isSeparator then
    if here.peek == some '.' then
      goTo (pastThree here)
      let _ ← skip
    asDocument node
  else if isAtEnd here then asDocument node
  else fail .trailingContent

/-- Reads the documents of a stream. -/
def readDocuments (budget : Nat) : Nat → List Tree → Reading (List Tree)
  | 0, documents => return documents.reverse
  | count + 1, documents => do
    if isAtEnd (← place) then return documents.reverse
    readDocuments budget count ((← readDocument budget) :: documents)

/-! ## Texts -/

/-- A text with a line end at its end and without a byte order mark. -/
def prepared (text : List Char) : List Char :=
  let ended :=
    match text.getLast? with
    | none => []
    | some c => if isBreak c then text else text ++ ['\n']
  match ended with
  | '\uFEFF' :: rest => rest
  | _ => ended

/-- The place of the first content of a text: behind the spaces it begins with. -/
def opening (text : List Char) : Cursor :=
  Block.passIndent none text { rest := text }

/-- The documents of a prepared text. -/
def documents (text : List Char) : Except Fault (List Tree) :=
  match Text.cutFirst? (· == '\x00') text with
  | some (before, _) => .error ⟨.nullByte, some { offset := Text.units before }⟩
  | none =>
    let budget := text.length + 1
    ((readDocuments budget budget []).run { cursor := opening text }).map Prod.fst

/-- The units that an excerpt may show: all of a text, or all but the last character when no reading
was possible at all. -/
def shownUnits (text : List Char) (fault : Fault) : List Nat :=
  (if fault.complaint = .nullByte then text.dropLast else text).flatMap Text.unitValues

/-- **Reads the document of a text.** The error is the text of the fault, which names the file. -/
def load (path content : String) : Except String (Option Tree) :=
  let text := prepared content.toList
  match documents text with
  | .error fault => .error (fault.text path (shownUnits text fault))
  | .ok [] => .ok none
  | .ok [tree] => .ok (some tree)
  | .ok _ => .error (Fault.text ⟨.severalDocuments, none⟩ path [])

end ComposeLint.Yaml
