import ComposeLint.Text.Search

/-!
# Faults of a YAML text

A `Complaint` is what is wrong, a `Mark` is how far the reader had come when it gave up, and a
`Fault` is both. Every complaint has one wording. How a fault is shown to a person, with the
lines around its mark, is in `ComposeLint.Yaml.Excerpt`.
-/

namespace ComposeLint.Yaml

/-- What holds a text that does not end. -/
inductive Enclosure where
  | flowCollection | singleQuotes | doubleQuotes | verbatimTag
  deriving DecidableEq, Repr

/-- The name of an enclosure. -/
def Enclosure.name : Enclosure → String
  | flowCollection => "a flow collection"
  | singleQuotes => "a single quoted scalar"
  | doubleQuotes => "a double quoted scalar"
  | verbatimTag => "a verbatim tag"

/-- How deep nodes may nest. -/
def maxDepth : Nat := 100

/-- How much merges may take over in a whole text: every mapping that is taken over counts as one,
and so does each of its keys. -/
def maxMergedTotal : Nat := 10000

/-- What is wrong with a text. -/
inductive Complaint where
  -- characters
  | nullByte | unprintable | controlInQuotes
  -- structure
  | streamEnds (within : Enclosure)
  | documentEnds (within : Enclosure)
  | missingComma | unexpectedComma
  | mappingIndent | sequenceIndent | tabIndent
  | trailingContent | multilineKey | missingColon | missingKey | missingBlankAfterColon
  | tooDeep | severalDocuments
  -- scalars
  | lineBreakExpected | repeatedChomping | repeatedIndent | zeroIndent | missingIndent
  | unknownEscape | digitExpected
  -- properties
  | namelessAnchor | namelessAlias | repeatedAnchor | repeatedTag | aliasWithProperties
  | unidentifiedAlias (name : String)
  | handleCharacters | bangInTag | indicatorInTag
  | tagCharacters (name : String)
  | malformedTag (name : String)
  | undeclaredHandle (handle : String)
  | unknownTag (tag : String)
  | unresolvedTag (tag : String)
  | wrongKind (tag expected found : String)
  /-- A type for texts was given a value that has not this ability of texts. -/
  | notText (ability : String)
  -- mappings
  | duplicateKey | nestedListInKey | unmergeable | tooManyMerged | tooMuchMerged
  -- directives
  | repeatedVersion | versionArguments | illFormedVersion | unacceptableVersion
  | tagArguments | illFormedHandle
  | repeatedHandle (handle : String)
  | illFormedHandlePrefix
  | malformedHandlePrefix (text : String)
  | namelessDirective | directivesEnd
  deriving DecidableEq, Repr

namespace Complaint

/-- The wording of a complaint. -/
def message : Complaint → String
  | nullByte => "null byte is not allowed in input"
  | unprintable => "the stream contains non-printable characters"
  | controlInQuotes => "expected valid JSON character"
  | streamEnds e => "unexpected end of the stream within " ++ e.name
  | documentEnds e => "unexpected end of the document within " ++ e.name
  | missingComma => "missed comma between flow collection entries"
  | unexpectedComma => "expected the node content, but found ','"
  | mappingIndent => "bad indentation of a mapping entry"
  | sequenceIndent => "bad indentation of a sequence entry"
  | tabIndent => "tab characters must not be used in indentation"
  | trailingContent => "end of the stream or a document separator is expected"
  | multilineKey =>
    "can not read a block mapping entry; a multiline key may not be an implicit key"
  | missingColon => "can not read an implicit mapping pair; a colon is missed"
  | missingKey =>
    "incomplete explicit mapping pair; a key node is missed; or followed by a non-tabulated " ++
      "empty line"
  | missingBlankAfterColon =>
    "a whitespace character is expected after the key-value separator within a block mapping"
  | tooDeep => "nesting exceeded maxDepth (" ++ toString maxDepth ++ ")"
  | severalDocuments => "expected a single document in the stream, but found more"
  | lineBreakExpected => "a line break is expected"
  | repeatedChomping => "repeat of a chomping mode identifier"
  | repeatedIndent => "repeat of an indentation width identifier"
  | zeroIndent =>
    "bad explicit indentation width of a block scalar; it cannot be less than one"
  | missingIndent => "missing indentation for block scalar"
  | unknownEscape => "unknown escape sequence"
  | digitExpected => "expected hexadecimal character"
  | namelessAnchor => "name of an anchor node must contain at least one character"
  | namelessAlias => "name of an alias node must contain at least one character"
  | repeatedAnchor => "duplication of an anchor property"
  | repeatedTag => "duplication of a tag property"
  | aliasWithProperties => "alias node should not have any properties"
  | unidentifiedAlias name => "unidentified alias \"" ++ name ++ "\""
  | handleCharacters => "named tag handle cannot contain such characters"
  | bangInTag => "tag suffix cannot contain exclamation marks"
  | indicatorInTag => "tag suffix cannot contain flow indicator characters"
  | tagCharacters name => "tag name cannot contain such characters: " ++ name
  | malformedTag name => "tag name is malformed: " ++ name
  | undeclaredHandle handle => "undeclared tag handle \"" ++ handle ++ "\""
  | unknownTag tag => "unknown tag !<" ++ tag ++ ">"
  | unresolvedTag tag => "cannot resolve a node with !<" ++ tag ++ "> explicit tag"
  | wrongKind tag expected found =>
    "unacceptable node kind for !<" ++ tag ++ "> tag; it should be \"" ++ expected ++
      "\", not \"" ++ found ++ "\""
  | notText ability => "data." ++ ability ++ " is not a function"
  | duplicateKey => "duplicated mapping key"
  | nestedListInKey => "nested arrays are not supported inside keys"
  | unmergeable => "cannot merge mappings; the provided source object is unacceptable"
  | tooManyMerged => "abnormal merge sequence size"
  | tooMuchMerged => "merge keys exceeded maxTotalMergeKeys (" ++ toString maxMergedTotal ++ ")"
  | repeatedVersion => "duplication of %YAML directive"
  | versionArguments => "YAML directive accepts exactly one argument"
  | illFormedVersion => "ill-formed argument of the YAML directive"
  | unacceptableVersion => "unacceptable YAML version of the document"
  | tagArguments => "TAG directive accepts exactly two arguments"
  | illFormedHandle => "ill-formed tag handle (first argument) of the TAG directive"
  | repeatedHandle handle =>
    "there is a previously declared suffix for \"" ++ handle ++ "\" tag handle"
  | illFormedHandlePrefix => "ill-formed tag prefix (second argument) of the TAG directive"
  | malformedHandlePrefix text => "tag prefix is malformed: " ++ text
  | namelessDirective => "directive name must not be less than one character in length"
  | directivesEnd => "directives end mark is expected"

end Complaint

/-- How far a reader had come. Offsets count sixteen-bit units; lines count from zero. -/
structure Mark where
  offset : Nat := 0
  line : Nat := 0
  /-- The offset at which the line begins. -/
  lineStart : Nat := 0
  deriving DecidableEq, Repr, Inhabited

/-- The place of a mark in its line, from zero. -/
def Mark.column (mark : Mark) : Int := mark.offset - mark.lineStart

/-- What is wrong, and where; some complaints are about no place. -/
structure Fault where
  complaint : Complaint
  mark : Option Mark
  deriving DecidableEq, Repr

end ComposeLint.Yaml
