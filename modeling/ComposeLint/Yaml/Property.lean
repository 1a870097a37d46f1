import ComposeLint.Text.Utf8
import ComposeLint.Yaml.Reading
import ComposeLint.Yaml.Scalar.Quoted

/-!
# Properties of nodes

Before its content a node may have a tag, which says of what type it is, and an anchor, by
which an alias refers to it. A tag is written in full between angle brackets, or as a handle
and a suffix; handles stand for a first part that a directive declares.
-/

namespace ComposeLint.Yaml

/-- The part that the standard types have in common. -/
def standardTags : String := "tag:yaml.org,2002:"

namespace Property

/-- Whether a text is a tag handle: `!`, `!!`, or a name of letters, digits and hyphens between
two. -/
def isHandle (handle : List Char) : Bool :=
  match handle with
  | ['!'] => true
  | '!' :: rest =>
    rest.getLast? == some '!' && rest.dropLast.all fun c => c.isAlphanum || c == '-'
  | _ => false

/-- Characters that a tag may consist of, besides the first one. -/
def isTagCharacter (c : Char) : Bool := c.isAlphanum || "-#;/?:@&=+$,_.!~*'()[]".toList.contains c

/-- Whether a text consists of tag characters and of percent signs with two digits. -/
def isTagText : List Char → Bool
  | [] => true
  | '%' :: a :: b :: rest =>
    (Quoted.hexValue? a).isSome && (Quoted.hexValue? b).isSome && isTagText rest
  | c :: rest => isTagCharacter c && isTagText rest

/-- Whether a text may be a tag or the first part of one. Its first character may be any but an
indicator. -/
def isTag (text : List Char) : Bool :=
  match text with
  | [] => false
  | c :: rest => !isIndicator c && Text.unitsOf c == 1 && isTagText rest

/-- The bytes of a text in which percent signs stand for bytes, two digits each. -/
def percentBytes? : List Char → Option (List Nat)
  | [] => some []
  | '%' :: a :: b :: rest => do
    let high ← Quoted.hexValue? a
    let low ← Quoted.hexValue? b
    return (16 * high + low) :: (← percentBytes? rest)
  | c :: rest =>
    if c == '%' then none
    else (percentBytes? rest).map ((c.toString.toUTF8.toList.map UInt8.toNat) ++ ·)

/-- A text with its percent signs resolved. -/
def unescaped? (text : List Char) : Option (List Char) :=
  (percentBytes? text).bind Text.Utf8.decode?

/-! ## Tags -/

/-- A handle and a suffix that are being read. -/
structure Shorthand where
  /-- Whether the handle is complete. -/
  isNamed : Bool
  handle : List Char
  /-- The text since then, last character first. -/
  suffix : List Char := []

/-- Reads a handle and a suffix up to the next gap, from a place whose rest is given apart. -/
def readShorthand : List Char → Shorthand → Cursor → Except Fault (Shorthand × Cursor)
  | [], short, cursor => .ok (short, { cursor with rest := [] })
  | c :: rest, short, cursor =>
    if isGap c then .ok (short, { cursor with rest := c :: rest })
    else if c == '!' then
      if short.isNamed then .error ⟨.bangInTag, some cursor.mark⟩
      else
        let handle := '!' :: (short.suffix.reverse ++ ['!'])
        if isHandle handle then
          readShorthand rest { isNamed := true, handle } (cursor.past c)
        else .error ⟨.handleCharacters, some cursor.mark⟩
    else readShorthand rest { short with suffix := c :: short.suffix } (cursor.past c)

/-- A tag as it is written: in full, or by a handle. -/
structure WrittenTag where
  /-- The handle; none for a tag in full. -/
  handle : Option String
  suffix : List Char

/-- Reads a written tag behind its first character. -/
def readWritten (cursor : Cursor) : Except Fault (WrittenTag × Cursor) := do
  if cursor.peek == some '<' then
    let opened := cursor.step
    -- the first character belongs to the tag whatever it is
    let first := opened.step
    let (name, next) :=
      match opened.peek with
      | none => ([], opened)
      | some c => let (more, next) := first.span (· != '>'); (c :: more, next)
    if next.rest.isEmpty then .error ⟨.streamEnds .verbatimTag, some next.mark⟩
    else return ({ handle := none, suffix := name }, next.step)
  else
    let (opened, short) :=
      if cursor.peek == some '!' then
        (cursor.step, { isNamed := true, handle := "!!".toList : Shorthand })
      else (cursor, { isNamed := false, handle := ['!'] })
    let (short, next) ← readShorthand opened.rest short opened
    let suffix := short.suffix.reverse
    if suffix.any isIndicator then .error ⟨.indicatorInTag, some next.mark⟩
    else return ({ handle := some (String.ofList short.handle), suffix }, next)

/-- The full tag of a handle and a suffix. -/
def expand (handles : List (String × String)) (handle suffix : String) :
    Except Complaint String :=
  match handles.lookup handle with
  | some start => .ok (start ++ suffix)
  | none =>
    if handle == "!" then .ok ("!" ++ suffix)
    else if handle == "!!" then .ok (standardTags ++ suffix)
    else .error (.undeclaredHandle handle)

/-- Reads a tag at a place that begins with an exclamation mark. -/
def readTag : Reading String := do
  let (written, next) ← (readWritten (← Reading.place).step : Except Fault _)
  Reading.goTo next
  if !written.suffix.isEmpty && !isTag written.suffix then
    Reading.fail (.tagCharacters (String.ofList written.suffix))
  match unescaped? written.suffix with
  | none => Reading.fail (.malformedTag (String.ofList written.suffix))
  | some name =>
    let name := String.ofList name
    match written.handle with
    | none => return name
    | some handle =>
      match expand (← get).handles handle name with
      | .ok tag => return tag
      | .error complaint => Reading.fail complaint

/-! ## Anchors and aliases -/

/-- Reads a name behind the character that announces it. -/
def readName (nameless : Complaint) : Reading String := do
  let (name, next) := (← Reading.place).step.span fun c => !isGap c && !isIndicator c
  Reading.goTo next
  if name.isEmpty then Reading.fail nameless
  return String.ofList name

/-- Reads an anchor. -/
def readAnchor : Reading String := readName .namelessAnchor

/-- Reads an alias and gives the node that it stands for. -/
def readAlias : Reading Tree := do
  let name ← readName .namelessAlias
  match ← Reading.named? name with
  | some value =>
    let _ ← Reading.skip
    return value
  | none => Reading.fail (.unidentifiedAlias name)

end Property
end ComposeLint.Yaml
