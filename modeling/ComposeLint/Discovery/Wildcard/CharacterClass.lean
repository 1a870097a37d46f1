import ComposeLint.Text.Category
import ComposeLint.Text.Search
import ComposeLint.Text.Units

/-!
# Character classes

A bracket such as `[a-z]` or `[![:digit:]]` stands for one character. Brackets are read unit by unit
(`CharacterClass.read`). A class that names categories of characters is wide: it stands for a whole
character, and two units in it that spell one character are that character. Any other class stands
for one unit.
-/

namespace ComposeLint.Discovery

/-- The classes that have names. -/
inductive NamedClass where
  | alnum | alpha | ascii | blank | cntrl | digit | graph | lower | print | punct | space | upper
  | word | xdigit
  deriving DecidableEq, Repr

namespace NamedClass

/-- All names of classes. -/
def all : List NamedClass :=
  [alnum, alpha, ascii, blank, cntrl, digit, graph, lower, print, punct, space, upper, word, xdigit]

/-- How a class is named between its brackets. -/
def name : NamedClass → String
  | alnum => "[:alnum:]"
  | alpha => "[:alpha:]"
  | ascii => "[:ascii:]"
  | blank => "[:blank:]"
  | cntrl => "[:cntrl:]"
  | digit => "[:digit:]"
  | graph => "[:graph:]"
  | lower => "[:lower:]"
  | print => "[:print:]"
  | punct => "[:punct:]"
  | space => "[:space:]"
  | upper => "[:upper:]"
  | word => "[:word:]"
  | xdigit => "[:xdigit:]"

/-- The units of a name. -/
def units (named : NamedClass) : List Nat := named.name.toList.map Char.toNat

/-- Whether a class is made of categories. -/
def isWide : NamedClass → Bool
  | ascii | xdigit => false
  | _ => true

/-- Whether a class is made of what is in none of its categories. -/
def isComplement (named : NamedClass) : Bool := named = graph

end NamedClass

/-- How a member of a class is spelled. -/
inductive Spelling where
  | value (n : Nat)
  /-- The dash between the ends of a range. -/
  | through
  | category (category : Text.Category)
  deriving DecidableEq, Repr

namespace NamedClass

/-- The members of a class. -/
def spelling : NamedClass → List Spelling
  | alnum => [.category .letter, .category .letterNumber, .category .decimalDigit]
  | alpha => [.category .letter, .category .letterNumber]
  | ascii => [.value 0x00, .through, .value 0x7F]
  | blank => [.category .space, .value 0x09]
  | cntrl => [.category .control]
  | digit => [.category .decimalDigit]
  | graph => [.category .separator, .category .other]
  | lower => [.category .smallLetter]
  | print => [.category .other]
  | punct => [.category .punctuation]
  | space =>
    [.category .separator, .value 0x09, .value 0x0D, .value 0x0A, .value 0x0B, .value 0x0C]
  | upper => [.category .capitalLetter]
  | word =>
    [.category .letter, .category .letterNumber, .category .decimalDigit, .category .connector]
  | xdigit =>
    [.value 0x41, .through, .value 0x46, .value 0x61, .through, .value 0x66, .value 0x30, .through,
      .value 0x39]

/-- The text of a category in an expression. -/
def categoryText (category : Text.Category) : String := "\\p\x7b" ++ category.symbol ++ "\x7d"

/-- The text of a class in an expression. -/
def text : NamedClass → String
  | ascii => "\\x00-\\x7f"
  | xdigit => "A-Fa-f0-9"
  | blank => categoryText .space ++ "\\t"
  | space => categoryText .separator ++ "\\t\\r\\n\\v\\f"
  | named =>
    Text.joined "" <| named.spelling.map fun
      | .category category => categoryText category
      | _ => ""

end NamedClass

/-- A member of a class. -/
inductive Member where
  | single (unit : Nat)
  /-- A unit and the dash before the end of the class. -/
  | withDash (unit : Nat)
  | range (first last : Nat)
  | byName (named : NamedClass)
  deriving DecidableEq, Repr

namespace Member

/-- The units of a unit in the text of a class. -/
def escaped (unit : Nat) : List Nat :=
  if ['[', ']', '\\', '-'].any fun c => c.toNat == unit then ['\\'.toNat, unit] else [unit]

/-- The text of a member in an expression. -/
def text : Member → List Nat
  | single unit => escaped unit
  | withDash unit => escaped unit ++ escaped '-'.toNat
  | range first last => escaped first ++ '-'.toNat :: escaped last
  | byName named => named.text.toList.map Char.toNat

/-- How a member is spelled. -/
def spelling : Member → List Spelling
  | single unit => [.value unit]
  | withDash unit => [.value unit, .value '-'.toNat]
  | range first last => [.value first, .through, .value last]
  | byName named => named.spelling

end Member

/-- A list of members between brackets. -/
structure MemberList where
  isNegated : Bool
  members : List Member
  deriving DecidableEq, Repr

namespace MemberList

/-- The text of a list in an expression. -/
def text (list : MemberList) : List Nat :=
  '['.toNat :: (if list.isNegated then ['^'.toNat] else []) ++ list.members.flatMap Member.text ++
    [']'.toNat]

/-- Spellings in which two halves that follow each other are one character. -/
def wholes : List Spelling → List Spelling
  | .value high :: .value low :: rest =>
    if 0xD800 ≤ high ∧ high < 0xDC00 ∧ 0xDC00 ≤ low ∧ low < 0xE000 then
      .value (0x10000 + (high - 0xD800) * 0x400 + (low - 0xDC00)) :: wholes rest
    else .value high :: wholes (.value low :: rest)
  | spelling :: rest => spelling :: wholes rest
  | [] => []

/-- The members of a list, by units or, when it is wide, by characters. -/
def spelling (list : MemberList) (isWide : Bool) : List Spelling :=
  let spelled := list.members.flatMap Member.spelling
  if isWide then wholes spelled else spelled

/-- Whether a spelling has a value among its members. -/
def hasValue (n : Nat) : List Spelling → Bool
  | .value first :: .through :: .value last :: rest =>
    (first ≤ n && n ≤ last) || hasValue n rest
  | .value value :: rest => value == n || hasValue n rest
  | .category category :: rest => category.contains n || hasValue n rest
  | .through :: rest => hasValue n rest
  | [] => false

/-- Whether a spelling has a range whose ends are in the wrong order. -/
def hasReversed : List Spelling → Bool
  | .value first :: .through :: .value last :: rest => last < first || hasReversed rest
  | _ :: rest => hasReversed rest
  | [] => false

/-- Whether a list matches a unit or, when it is wide, a character. -/
def contains (list : MemberList) (isWide : Bool) (n : Nat) : Bool :=
  hasValue n (list.spelling isWide) != list.isNegated

end MemberList

/-! ## Reading -/

/-- What a bracket is. -/
inductive CharacterClass where
  /-- A bracket without its end, which is text. -/
  | unclosed
  /-- A class that nothing matches. It spoils the text after it too. -/
  | impossible
  /-- A bracket around one unit, which stands for that unit. -/
  | literal (unit : Nat)
  /-- Lists of members, any of which may match. -/
  | lists (lists : List MemberList)
  deriving DecidableEq, Repr

namespace CharacterClass

/-- What has been read of a bracket. -/
structure Reader where
  isNegated : Bool := false
  /-- Members, last first. -/
  members : List Member := []
  /-- Members of the complement, last first. -/
  complement : List Member := []
  isQuoted : Bool := false
  rangeStart : Option Nat := none

/-- Whether something has been read that stops a bracket from closing at once. -/
inductive Progress where
  | start | negated | more
  deriving DecidableEq, Repr

/-- The classes that the lists of a bracket are. -/
def Reader.lists (read : Reader) : List MemberList :=
  let positive : MemberList :=
    { isNegated := read.isNegated, members := read.members.reverse }
  let negative : MemberList :=
    { isNegated := !read.isNegated, members := read.complement.reverse }
  [positive, negative].filter fun list => !list.members.isEmpty

/-- Units that end a line. -/
def endsLine (unit : Nat) : Bool :=
  unit == 0x0A || unit == 0x0D || unit == 0x2028 || unit == 0x2029

/-- The class of a bracket that is closed. -/
def Reader.result (read : Reader) : CharacterClass :=
  match read.members, read.complement with
  | [], [] => .impossible
  | [.single unit], [] =>
    if read.isNegated || endsLine unit then .lists read.lists else .literal unit
  | _, _ => .lists read.lists

/-- The class whose name a text begins with. -/
def named? (units : List Nat) : Option NamedClass :=
  NamedClass.all.find? fun named => named.units.isPrefixOf units

/-- The reader after a unit that has no meaning of its own; `dashed` says that a dash follows, and
`closed` that the end of the class follows the dash. -/
def Reader.take (read : Reader) (unit : Nat) (dashed closed : Bool) : Reader :=
  let plain := { read with isQuoted := false }
  match read.rangeStart with
  | some first =>
    let found :=
      if first < unit then [Member.range first unit]
      else if first = unit then [.single unit]
      else []
    { plain with members := found ++ read.members, rangeStart := none }
  | none =>
    if dashed && closed then { plain with members := .withDash unit :: read.members }
    else if dashed then { plain with rangeStart := some unit }
    else { plain with members := .single unit :: read.members }

/-- Reads a bracket, whose opening has been read; `skip` units are passed over first. -/
def reading (skip : Nat) (progress : Progress) (read : Reader) :
    List Nat → CharacterClass × List Nat
  | [] => (unclosed, [])
  | unit :: rest =>
    match skip with
    | skip + 1 => reading skip progress read rest
    | 0 =>
      let isOneOf (c : Char) : Bool := unit == c.toNat
      if progress = .start && (isOneOf '!' || isOneOf '^') then
        reading 0 .negated { read with isNegated := true } rest
      else if isOneOf ']' && progress = .more && !read.isQuoted then (read.result, rest)
      else if isOneOf '\\' && !read.isQuoted then
        reading 0 .more { read with isQuoted := true } rest
      else
        match if isOneOf '[' && !read.isQuoted then named? (unit :: rest) else none with
        | some named =>
          if read.rangeStart.isSome then (impossible, [])
          else
            let member := Member.byName named
            let read :=
              if named.isComplement then
                { read with complement := member :: read.complement }
              else { read with members := member :: read.members }
            reading (named.units.length - 1) .more read rest
        | none =>
          let dashed := rest.head? == some '-'.toNat
          let closed := dashed && rest.tail.head? == some ']'.toNat
          let skipped := if dashed && read.rangeStart.isNone then 1 else 0
          reading skipped .more (read.take unit dashed closed) rest

/-- **Reads a bracket** whose opening has been read, and gives the text after it. -/
def read (units : List Nat) : CharacterClass × List Nat := reading 0 .start {} units

/-- Whether a class stands for whole characters. -/
def isWide : CharacterClass → Bool
  | .lists found =>
    found.any fun list => list.members.any fun
      | .byName named => named.isWide
      | _ => false
  | _ => false

end CharacterClass
end ComposeLint.Discovery
