import ComposeLint.Yaml.Entries
import ComposeLint.Yaml.Scalar.Block

/-!
# Nodes

A node is a scalar, a sequence or a mapping, with its properties in front. Where block style is
allowed a node may be a block collection, whose structure is its indentation; flow collections
stand between brackets. Each reader gives the content it has read, or nothing when no content
of its form begins at the place.

Readers of collections are given the reader of their members. `readNode` ties the knot, with
one step of its depth for each level of nesting. The budget that bounds the loops is the length
of the text: every turn of a loop passes at least one character.
-/

namespace ComposeLint.Yaml

/-- Where a node stands. -/
inductive Setting where
  | flowIn | flowOut | blockIn | blockOut
  deriving DecidableEq, Repr

/-- Whether block style is allowed. -/
def Setting.isBlock : Setting → Bool
  | blockIn | blockOut => true
  | flowIn | flowOut => false

/-- The content of a node, as it is before its tag is considered. -/
structure Content where
  /-- None for an alias. -/
  kind : Option NodeKind
  value : Tree
  isPlain : Bool := false

/-- A node. -/
structure Node where
  tag : Option String
  anchor : Option String
  value : Tree
  kind : Option NodeKind
  /-- Whether there is any content. -/
  hasContent : Bool

/-- Whether there is anything of a node at all. -/
def Node.isPresent (node : Node) : Bool :=
  node.tag.isSome || node.anchor.isSome || node.hasContent

/-- What a node is told about where it stands. -/
structure Outline where
  /-- The indentation of the node around it. -/
  indent : Int
  setting : Setting
  /-- Whether blanks and line breaks may come first. -/
  maySeek : Bool
  /-- Whether a block collection may begin in the middle of a line. -/
  mayBeCompact : Bool

/-- A reader of nodes. -/
abbrev NodeReader := Outline → Reading Node

namespace Node

open Reading

/-- Whether the place is an indicator that stands by itself. -/
def isApart (cursor : Cursor) (c : Char) : Bool :=
  cursor.peek == some c && cursor.peekNext.any isGap

/-- Refuses a tab in front of a block collection. -/
def refuseTab : Reading Unit := do
  match (← place).firstTab with
  | some offset =>
    goTo ((← place).movedTo offset)
    fail .tabIndent
  | none => return

/-- The column of the place. -/
def column (cursor : Cursor) : Nat := cursor.offset - cursor.lineStart

/-- The content of a collection that is complete. -/
def completed (number : Option Nat) (kind : NodeKind) (value : Tree) : Reading Content :=
  return { kind := some kind, value := ← complete number value }

/-! ## Flow collections -/

/-- The members of a flow collection, the last one first, or its entries. -/
structure Members where
  items : List Tree := []
  entries : Entries := {}

/-- The members so far as a draft. -/
def Members.draft (members : Members) (isMapping : Bool) : Draft :=
  if isMapping then .mapping members.entries.table.entries else .sequence members.items

/-- Reads a member of a flow collection. In a sequence a pair is a mapping of one entry. -/
def readMember (read : NodeReader) (indent : Int) (isMapping : Bool) (members : Members) :
    Reading Members := do
  let outline : Outline := { indent, setting := .flowIn, maySeek := false, mayBeCompact := true }
  let isExplicit := isApart (← place) '?'
  if isExplicit then
    step
    let _ ← skip
  let start := (← place).mark
  let key ← read outline
  let _ ← skip
  let here ← place
  let hasValue := (isExplicit || here.line == start.line) && here.peek == some ':'
  let value ←
    if hasValue then do
      step
      let _ ← skip
      pure (← read outline).value
    else pure .null
  if isMapping then
    return { members with entries := ← members.entries.add key.tag key.value value start }
  else if isExplicit || hasValue then
    let pair ← ({} : Entries).add key.tag key.value value start
    return { members with items := (← ringed none pair.tree) :: members.items }
  else return { members with items := key.value :: members.items }

/-- Reads the members of a flow collection up to its closing bracket. -/
def readMembers (read : NodeReader) (indent : Int) (number : Option Nat) (isMapping : Bool)
    (closing : Char) : Nat → Bool → Members → Reading Members
  | 0, _, _ => fail (.streamEnds .flowCollection)
  | budget + 1, mayGoOn, members => do
    if (← place).rest.isEmpty then fail (.streamEnds .flowCollection)
    let _ ← skip
    let next := (← place).peek
    if next == some closing then
      step
      return members
    else if !mayGoOn then fail .missingComma
    else if next == some ',' then fail .unexpectedComma
    else
      let members ← readMember read indent isMapping members
      note number (members.draft isMapping)
      let _ ← skip
      if (← place).peek == some ',' then
        step
        readMembers read indent number isMapping closing budget true members
      else readMembers read indent number isMapping closing budget false members

/-- Reads a flow collection. -/
def readFlow? (read : NodeReader) (budget : Nat) (indent : Int) (anchor : Option String) :
    Reading (Option Content) := do
  match (← place).peek with
  | some '[' =>
    let number ← begin anchor (.sequence [])
    step
    let members ← readMembers read indent number false ']' (2 * budget) true {}
    return some (← completed number .sequence (.list members.items.reverse))
  | some '\x7b' =>
    let number ← begin anchor (.mapping [])
    step
    let members ← readMembers read indent number true '\x7d' (2 * budget) true {}
    return some (← completed number .mapping members.entries.tree)
  | _ => return none

/-! ## Block sequences -/

/-- Reads the items of a block sequence; the last one comes first. -/
def readItems (read : NodeReader) (indent : Nat) (number : Option Nat) :
    Nat → List Tree → Reading (List Tree)
  | 0, items => return items
  | budget + 1, items => do
    if (← place).rest.isEmpty then return items
    refuseTab
    if !isApart (← place) '-' then return items
    step
    let breaks ← skip
    if breaks != 0 && (← place).lineIndent ≤ indent then
      note number (.sequence (.null :: items))
      readItems read indent number budget (.null :: items)
    else
      let line := (← place).line
      let item ← read { indent, setting := .blockIn, maySeek := false, mayBeCompact := true }
      let items := item.value :: items
      note number (.sequence items)
      let _ ← skip
      let here ← place
      if (here.line == line || indent < here.lineIndent) && !here.rest.isEmpty then
        fail .sequenceIndent
      else if here.lineIndent < indent then return items
      else readItems read indent number budget items

/-- Reads a block sequence. -/
def readSequence? (read : NodeReader) (budget : Nat) (indent : Nat) (anchor : Option String) :
    Reading (Option Content) := do
  if (← place).firstTab.isSome then return none
  let number ← begin anchor (.sequence [])
  if !isApart (← place) '-' then return none
  let items ← readItems read indent number budget []
  return some (← completed number .sequence (.list items.reverse))

/-! ## Block mappings -/

/-- A block mapping that is being read. -/
structure Rows where
  /-- The number of the mapping. -/
  number : Option Nat := none
  entries : Entries := {}
  /-- The key whose value is still to come, with its tag and its place. -/
  keyTag : Option String := none
  key : Tree := .null
  keyStart : Mark := {}
  /-- Whether the key was announced by a question mark. -/
  isExplicit : Bool := false
  /-- Whether this is certainly a mapping. -/
  isCertain : Bool := false

/-- Adds the pending entry. -/
def Rows.close (rows : Rows) (value : Tree) : Reading Rows := do
  let entries ← rows.entries.add rows.keyTag rows.key value rows.keyStart
  note rows.number (.mapping entries.table.entries)
  return { rows with entries, keyTag := none, key := .null }

/-- Adds the pending entry without a value, if its key was announced. -/
def Rows.closeExplicit (rows : Rows) : Reading Rows :=
  if rows.isExplicit then rows.close .null else return rows

/-- What comes after the part of a mapping that has been read. -/
inductive Turn where
  /-- The value, or the announced key, follows; in the middle of a line it may be a block
  collection only if `isCompact`. -/
  | entry (rows : Rows) (isCompact : Bool)
  /-- The mapping is at its end. -/
  | finish (rows : Rows)
  /-- There is no mapping, only a node. -/
  | single (node : Node)

/-- Reads the start of an entry: an indicator that stands by itself, or a key and its colon. -/
def readKey (read : NodeReader) (flowIndent : Int) (rows : Rows) : Reading Turn := do
  let here ← place
  if isApart here '?' then
    let rows ← rows.closeExplicit
    step
    return .entry { rows with isCertain := true, isExplicit := true } true
  else if isApart here ':' then
    if rows.isExplicit then
      step
      return .entry { rows with isExplicit := false } true
    else fail .missingKey
  else
    let start := here.mark
    let node ← read
      { indent := flowIndent, setting := .flowOut, maySeek := false, mayBeCompact := true }
    if !node.isPresent then return .finish { rows with keyStart := start }
    if (← place).line != start.line then
      if rows.isCertain then fail .multilineKey else return .single node
    else
      goTo ((← place).span isSpace).2
      if (← place).peek == some ':' then
        step
        if !(← place).sees isGap then fail .missingBlankAfterColon
        let rows ← { rows with keyStart := start : Rows }.closeExplicit
        return .entry
          { rows with
            isCertain := true, isExplicit := false, keyTag := node.tag, key := node.value
            keyStart := start } false
      else if rows.isCertain then fail .missingColon
      else return .single node

/-- Reads the value of an entry, or the key that was announced. -/
def readValue (read : NodeReader) (indent : Nat) (rows : Rows) (isCompact : Bool) :
    Reading Rows := do
  let start := (← place).mark
  let node ← read { indent, setting := .blockOut, maySeek := true, mayBeCompact := isCompact }
  if rows.isExplicit then
    return { rows with
      keyStart := start, key := if node.isPresent then node.value else rows.key }
  else rows.close (if node.isPresent then node.value else .null)

/-- Reads the entries of a block mapping. -/
def readRows (read : NodeReader) (indent : Nat) (flowIndent : Int) :
    Nat → Rows → Reading (Sum Rows Node)
  | 0, rows => return .inl rows
  | budget + 1, rows => do
    if (← place).rest.isEmpty then return .inl rows
    if !rows.isExplicit then refuseTab
    let line := (← place).line
    match ← readKey read flowIndent rows with
    | .finish rows => return .inl rows
    | .single node => return .inr node
    | .entry rows isCompact =>
      let rows ← readValue read indent rows isCompact
      let _ ← skip
      let here ← place
      if (here.line == line || indent < here.lineIndent) && !here.rest.isEmpty then
        fail .mappingIndent
      else if here.lineIndent < indent then return .inl rows
      else readRows read indent flowIndent budget rows

/-- What came of looking for a block mapping. -/
inductive Attempt where
  | notMade
  /-- Not even a node was found. -/
  | failed
  | found (content : Content)

/-- Reads a block mapping. When what looked like a first key turns out to be no key, it is given as
the content. -/
def readMapping (read : NodeReader) (budget : Nat) (indent : Nat) (flowIndent : Int)
    (anchor : Option String) : Reading Attempt := do
  if (← place).firstTab.isSome then return .notMade
  let number ← begin anchor (.mapping [])
  if (← place).rest.isEmpty then return .notMade
  match ← readRows read indent flowIndent budget { number } with
  | .inr node =>
    let _ ← complete number (.mapping [])
    return .found { kind := node.kind, value := node.value }
  | .inl rows =>
    let rows ← rows.closeExplicit
    if rows.isCertain then return .found (← completed number .mapping rows.entries.tree)
    else return .failed

/-! ## Properties -/

/-- How a line is indented in comparison to the node around it. -/
def compareIndent (cursor : Cursor) (indent : Int) : Ordering :=
  compare (cursor.lineIndent : Int) indent

/-- The properties of a node that is being read. -/
structure Properties where
  tag : Option String := none
  anchor : Option String := none
  /-- Where the first property begins. -/
  start : Option Cursor := none
  /-- Whether the place is the first one of a line. -/
  isAtNewLine : Bool
  /-- How the line is indented in comparison to the node around it. -/
  order : Ordering
  mayBeBlock : Bool

/-- Notes that blanks were skipped after a property. -/
def Properties.after (properties : Properties) (outline : Outline) : Reading Properties := do
  let breaks ← skip
  if breaks = 0 then return { properties with mayBeBlock := false }
  else
    return { properties with
      isAtNewLine := true, mayBeBlock := outline.setting.isBlock
      order := compareIndent (← place) outline.indent }

/-- Reads properties. On a line of its own, a second property of the same sort belongs to a node
inside. -/
def readProperties (outline : Outline) : Nat → Properties → Reading Properties
  | 0, properties => return properties
  | count + 1, properties => do
    let here ← place
    let start := properties.start.or (some here)
    match here.peek with
    | some '!' =>
      if properties.tag.isSome then
        if properties.isAtNewLine then return properties else fail .repeatedTag
      else
        let tag ← Property.readTag
        readProperties outline count
          (← { properties with tag := some tag, start : Properties }.after outline)
    | some '&' =>
      if properties.anchor.isSome then
        if properties.isAtNewLine then return properties else fail .repeatedAnchor
      else
        let anchor ← Property.readAnchor
        readProperties outline count
          (← { properties with anchor := some anchor, start : Properties }.after outline)
    | _ => return properties

/-! ## Contents -/

/-- Runs a reader of scalars at the present place. -/
def scalar (read? : Cursor → Except Fault (Option (String × Cursor))) (isPlain : Bool) :
    Reading (Option Content) := do
  match ← (read? (← place) : Except Fault _) with
  | some (text, next) =>
    goTo next
    return some { kind := some .scalar, value := .text text, isPlain }
  | none => return none

/-- Reads an alias. An alias has no properties of its own. -/
def readAlias? (properties : Properties) : Reading (Option Content) := do
  if (← place).peek != some '*' then return none
  let value ← Property.readAlias
  if properties.tag.isSome || properties.anchor.isSome then fail .aliasWithProperties
  return some { kind := none, value }

/-- The first content that one of some readers gives. -/
def firstOf : List (Reading (Option Content)) → Reading (Option Content)
  | [] => return none
  | read :: others => do
    match ← read with
    | some content => return some content
    | none => firstOf others

/-- Reads a mapping whose first key has the properties that were read. When it is no mapping, the
place and the names stay as they were. -/
def readFromProperties? (read : NodeReader) (budget : Nat) (flowIndent : Int) (start : Cursor) :
    Reading (Option Content) := do
  let before ← get
  goTo start
  match ← readMapping read budget (column start) flowIndent none with
  | .found content =>
    if content.kind = some .mapping then return some content
    else
      set before
      return none
  | _ =>
    set before
    return none

/-- Whether a block scalar begins at a place. -/
def opensBlockScalar (cursor : Cursor) : Bool := cursor.sees fun c => c == '|' || c == '>'

/-- Reads a block collection where one may begin. After a line that begins no node the properties
above it are forgotten. -/
def readCollection (read : NodeReader) (budget : Nat) (flowIndent : Int)
    (properties : Properties) : Reading (Properties × Option Content) := do
  if !properties.mayBeBlock then return (properties, none)
  let indent := column (← place)
  match ← readSequence? read budget indent properties.anchor with
  | some content => return (properties, some content)
  | none =>
    match ← readMapping read budget indent flowIndent properties.anchor with
    | .found content => return (properties, some content)
    | .failed => return ({ properties with tag := none, anchor := none }, none)
    | .notMade => return (properties, none)

/-- Reads a mapping whose first key has the properties that were read, where there may be one. -/
def readRetried? (read : NodeReader) (budget : Nat) (flowIndent : Int) (isBlock : Bool)
    (properties : Properties) : Reading (Option Content) := do
  match properties.start with
  | some start =>
    if isBlock && !properties.mayBeBlock && !opensBlockScalar (← place) then
      readFromProperties? read budget flowIndent start
    else return none
  | none => return none

/-- Reads the content of a node that is indented enough, and gives the properties that stay with
it. -/
def readContent (read : NodeReader) (budget : Nat) (outline : Outline) (properties : Properties) :
    Reading (Properties × Option Content) := do
  let isBlock := outline.setting.isBlock
  let flowIndent := if isBlock then outline.indent + 1 else outline.indent
  let (properties, collection) ← readCollection read budget flowIndent properties
  if collection.isSome then return (properties, collection)
  let flow ← readFlow? read budget flowIndent properties.anchor
  if flow.isSome then return (properties, flow)
  let retried ← readRetried? read budget flowIndent isBlock properties
  if retried.isSome then return ({ properties with tag := none, anchor := none }, retried)
  let content ← firstOf
    [if isBlock then scalar (Block.read? budget flowIndent) false else pure none,
      scalar (Quoted.read? budget) false, readAlias? properties,
      scalar (Plain.read? budget flowIndent (outline.setting == .flowIn)) true]
  register properties.anchor ((content.map (·.value)).getD .null)
  return (properties, content)

/-! ## Types -/

/-- The name of the kind of a content; an alias has none of its own. -/
def kindName (kind : Option NodeKind) : String := (kind.map NodeKind.name).getD "null"

/-- Whether a tree is null. -/
def isNull : Tree → Bool
  | .null => true
  | _ => false

/-- The first type, of those that plain scalars are tried for, that accepts a value, with the
value that it gives. -/
def resolvePlain (value : Tree) : Reading (Option (Tag × Tree)) :=
  match Tag.implicit.findSome? (Tag.misuse? · value) with
  | some complaint => throw ⟨complaint, none⟩
  | none => return Tag.ofPlain? value

/-- The value that a type gives to a content of a kind. -/
def resolveAs (tag : String) (type : Tag) (kind : Option NodeKind) (value : Tree) :
    Reading Tree := do
  if !isNull value && kind.isNone then
    fail (.wrongKind tag type.kind.name (kindName kind))
  match type.misuse? value with
  | some complaint => throw ⟨complaint, none⟩
  | none =>
    match type.value? (← view value) with
    | none => fail (.unresolvedTag tag)
    | some (.list pairs) =>
      if type.keepsCollection && !isNull value then return value
      else ringed none (.list (← pairs.mapM (ringed none)))
    | some found => return if type.keepsCollection && !isNull value then value else found

/-- The node of a content, with the value that its type gives to it. -/
def resolve (properties : Properties) (content : Option Content) : Reading Node := do
  let kind := content.bind (·.kind)
  let value := (content.map (·.value)).getD .null
  let anchor := properties.anchor
  let tag := if content.any (·.isPlain) then properties.tag.or (some "?") else properties.tag
  let node : Node := { tag, anchor, value, kind, hasContent := content.isSome }
  match tag with
  | none =>
    register anchor value
    return node
  | some "!" => return node
  | some "?" =>
    if !isNull value && kind != some .scalar then
      fail (.wrongKind "?" NodeKind.scalar.name (kindName kind))
    else
      match ← resolvePlain value with
      | some (type, value) =>
        register anchor value
        return { node with tag := some type.text, value }
      | none => return node
  | some tag =>
    match Tag.on? tag kind with
    | none => fail (.unknownTag tag)
    | some type =>
      let value ← resolveAs tag type kind value
      register anchor value
      return { node with value }

/-- Reads a node whose members are read by `read`. -/
def compose (budget : Nat) (read : NodeReader) : NodeReader := fun outline => do
  let breaks ← if outline.maySeek then skip else pure 0
  let here ← place
  let order := if breaks = 0 then .gt else compareIndent here outline.indent
  let properties : Properties :=
    { isAtNewLine := breaks != 0, order, mayBeBlock := outline.setting.isBlock }
  let properties ←
    if order = .gt then readProperties outline 3 properties else pure properties
  let properties :=
    { properties with
      mayBeBlock := properties.mayBeBlock && (properties.isAtNewLine || outline.mayBeCompact) }
  if properties.order = .gt then
    let (properties, content) ← readContent read budget outline properties
    resolve properties content
  else if properties.order = .eq && outline.setting = .blockOut && properties.mayBeBlock then
    let indent := column (← place)
    resolve properties (← readSequence? read budget indent properties.anchor)
  else resolve properties none

end Node

/-- Reads a node that nests no deeper than the given number of levels. -/
def readNode (budget : Nat) : Nat → NodeReader
  | 0 => fun _ => Reading.fail .tooDeep
  | depth + 1 => Node.compose budget (readNode budget depth)

end ComposeLint.Yaml
