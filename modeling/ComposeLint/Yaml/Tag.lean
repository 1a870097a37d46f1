import ComposeLint.Yaml.Property

/-!
# Types of nodes

A tag names the type of a node. Each standard type belongs to one kind of node, accepts some
contents and gives a value for them. A plain scalar without a tag is of the first type that
accepts its text, in the order of `Tag.implicit`; when none does, it is text.
-/

namespace ComposeLint.Yaml

/-- The kinds of nodes. -/
inductive NodeKind where
  | scalar | sequence | mapping
  deriving DecidableEq, Repr

/-- The name of a kind. -/
def NodeKind.name : NodeKind → String
  | scalar => "scalar"
  | sequence => "sequence"
  | mapping => "mapping"

/-- The standard types. -/
inductive Tag where
  | str | seq | map | null | bool | int | float | timestamp | merge | binary | omap | pairs | set
  deriving DecidableEq, Repr

namespace Tag

/-- All types by the last parts of their tags. -/
def names : List (String × Tag) :=
  [("str", str), ("seq", seq), ("map", map), ("null", null), ("bool", bool), ("int", int),
    ("float", float), ("timestamp", timestamp), ("merge", merge), ("binary", binary),
    ("omap", omap), ("pairs", pairs), ("set", set)]

/-- The type of a full tag. -/
def ofText? (tag : String) : Option Tag :=
  (names.find? fun entry => standardTags ++ entry.1 == tag).map Prod.snd

/-- The kind of node that a type belongs to. -/
def kind : Tag → NodeKind
  | seq | omap | pairs => .sequence
  | map | set => .mapping
  | _ => .scalar

/-- The full tag of merge keys. -/
def mergeText : String := standardTags ++ "merge"

/-! ## Values of scalars -/

/-- Whether a text is null. -/
def isNull (s : String) : Bool := ["~", "null", "Null", "NULL"].contains s

/-- The truth value of a text. -/
def bool? (s : String) : Option Bool :=
  if ["true", "True", "TRUE"].contains s then some true
  else if ["false", "False", "FALSE"].contains s then some false
  else none

/-- The sign of a number, and the text after it. -/
def splitSign (cs : List Char) : Bool × List Char :=
  match cs with
  | '-' :: rest => (true, rest)
  | '+' :: rest => (false, rest)
  | _ => (false, cs)

/-- The value of digits to a base. -/
def digits? (base : Nat) (cs : List Char) : Option Nat :=
  if cs.isEmpty then none
  else
    cs.foldl (fun value c => do
      let digit ← Quoted.hexValue? c
      if digit < base then return base * (← value) + digit else none) (some 0)

/-- A number, unless it is too large to be one. -/
def bounded? : Number → Option Number
  | .infinite _ => none
  | n => some n

/-- The whole number of a text: a sign, and digits to the base 10, or to another one after its
mark. A zero in front has no meaning. -/
def int? (s : String) : Option Number := do
  let (negative, cs) := splitSign s.toList
  let value ←
    match cs with
    | '0' :: 'b' :: rest => digits? 2 rest
    | '0' :: 'x' :: rest => digits? 16 rest
    | '0' :: 'o' :: rest => digits? 8 rest
    | _ => digits? 10 cs
  bounded? (Number.nearest negative value 0)

/-- The number of a text: a decimal, which has a sign only before a digit, or one of the numbers
that no decimal denotes. A decimal that is too large is none. -/
def float? (s : String) : Option Number :=
  let (negative, cs) := splitSign s.toList
  if [".inf", ".Inf", ".INF"].contains (String.ofList cs) then some (.infinite negative)
  else if [".nan", ".NaN", ".NAN"].contains s then some .notANumber
  else if cs.head? == some '.' && cs.length != s.length then none
  else (Number.ofDecimal? negative cs).bind bounded?

/-! ## Points in time -/

/-- Reads `least` to `most` decimal digits. -/
def readNumber? (least most : Nat) (cs : List Char) : Option (Nat × List Char) :=
  let digits := (cs.takeWhile Char.isDigit).take most
  if digits.length < least then none else some (Number.digitsValue digits, cs.drop digits.length)

/-- Reads one of some characters. -/
def readOne? (options : List Char) : List Char → Option (List Char)
  | c :: rest => if options.contains c then some rest else none
  | [] => none

/-- The day of a text `2001-12-14`. -/
def day? (cs : List Char) : Option Instant := do
  let (year, cs) ← readNumber? 4 4 cs
  let (month, cs) ← readNumber? 2 2 (← readOne? ['-'] cs)
  let (day, cs) ← readNumber? 2 2 (← readOne? ['-'] cs)
  if cs.isEmpty then some (.ofCivil year month day 0 0 0 0) else none

/-- The minutes by which a zone is ahead of universal time. -/
def zone? (cs : List Char) : Option Int :=
  match cs with
  | ['Z'] => some 0
  | sign :: rest => do
    if sign != '+' && sign != '-' then none
    let (hours, rest) ← readNumber? 1 2 rest
    let minutes ←
      match rest with
      | [] => some 0
      | ':' :: rest => do
        let (minutes, rest) ← readNumber? 2 2 rest
        if rest.isEmpty then some minutes else none
      | _ => none
    let offset : Int := hours * 60 + minutes
    return if sign == '-' then -offset else offset
  | [] => none

/-- The milliseconds of a fraction of a second; further digits have no meaning. -/
def milliseconds (fraction : List Char) : Nat :=
  Number.digitsValue ((fraction ++ ['0', '0', '0']).take 3)

/-- The instant of a text such as `2001-12-14t21:59:43.10 -05:00`. -/
def moment? (cs : List Char) : Option Instant := do
  let (year, cs) ← readNumber? 4 4 cs
  let (month, cs) ← readNumber? 1 2 (← readOne? ['-'] cs)
  let (day, cs) ← readNumber? 1 2 (← readOne? ['-'] cs)
  let cs ←
    match cs with
    | c :: rest =>
      if c == 'T' || c == 't' then some rest
      else if isSpace c then some (rest.dropWhile isSpace)
      else none
    | [] => none
  let (hour, cs) ← readNumber? 1 2 cs
  let (minute, cs) ← readNumber? 2 2 (← readOne? [':'] cs)
  let (second, cs) ← readNumber? 2 2 (← readOne? [':'] cs)
  let (fraction, cs) :=
    match cs with
    | '.' :: rest => rest.span Char.isDigit
    | _ => ([], cs)
  let ahead ← if cs.isEmpty then some 0 else zone? (cs.dropWhile isSpace)
  let t := Instant.ofCivil year month day hour minute second (milliseconds fraction)
  return ⟨t.milliseconds - ahead * 60000⟩

/-- The instant of a text. -/
def timestamp? (s : String) : Option Instant := (day? s.toList).or (moment? s.toList)

/-! ## Byte strings -/

/-- The characters of byte strings by their values; the last one fills up. -/
def base64Characters : List Char :=
  "ABCDEFGHIJKLMNOPQRSTUVWXYZabcdefghijklmnopqrstuvwxyz0123456789+/=".toList

/-- The bytes of a run of characters, by their values, in groups of four. -/
def bytesOfSextets : List Nat → List Nat
  | a :: b :: c :: d :: rest =>
    let n := ((a * 64 + b) * 64 + c) * 64 + d
    (n / 65536) :: (n / 256 % 256) :: (n % 256) :: bytesOfSextets rest
  | [a, b, c] =>
    let n := (a * 64 + b) * 64 + c
    [n / 1024, n / 4 % 256]
  | [a, b] => [(a * 64 + b) / 16]
  | _ => []

/-- The bytes of a text. Line breaks have no meaning, and the length of all else is a multiple of
four. An empty text stands for three zero bytes. -/
def bytes? (s : String) : Option (List Nat) := do
  let cs := s.toList.filter fun c => !isBreak c
  let sextets ← cs.mapM fun c => base64Characters.idxOf? c
  if sextets.length % 4 != 0 then none
  let data := sextets.filter (· < 64)
  return if data.isEmpty then [0, 0, 0] else bytesOfSextets data

/-! ## Values of collections -/

/-- The single entry of a mapping, with the others refused. -/
def single? (item : Tree) : Option (String × Tree) :=
  match item with
  | .mapping entries =>
    match readingOrder entries with
    | [entry] => some entry
    | _ => none
  | _ => none

/-- Whether a list consists of mappings with one entry each and has no key twice. -/
def isOrderedMap (items : List Tree) : Bool :=
  match items.mapM single? with
  | some entries => (entries.map Prod.fst).eraseDups.length == entries.length
  | none => false

/-- A list of mappings with one entry each as a list of keys and values. -/
def pairs? (items : List Tree) : Option (List Tree) :=
  items.mapM fun item => (single? item).map fun entry => .list [.text entry.1, entry.2]

/-- Whether an entry of a set has no value. -/
def isMember (entry : String × Tree) : Bool :=
  match entry.2 with
  | .null => true
  | _ => false

/-- The value that a type gives to a content, if it accepts it. An empty node has no content. -/
def value? (tag : Tag) (content : Tree) : Option Tree :=
  match tag, content with
  | str, .null => some (.text "")
  | str, content => some content
  | seq, .null => some (.list [])
  | seq, content => some content
  | map, .null => some (.mapping [])
  | map, content => some content
  | null, .null => some .null
  | null, .text s => if isNull s then some .null else none
  | bool, .text s => (bool? s).map .bool
  | int, .text s => (int? s).map .number
  | float, .text s => (float? s).map .number
  | timestamp, .text s => (timestamp? s).map .date
  | merge, .null => some .null
  | merge, .text s => if s == "<<" then some (.text s) else none
  | binary, .text s => (bytes? s).map .bytes
  | omap, .null => some (.list [])
  | omap, .list items => if isOrderedMap items then some (.list items) else none
  | pairs, .null => some (.list [])
  | pairs, .list items => (pairs? items).map .list
  | set, .null => some (.mapping [])
  | set, .mapping entries => if entries.all isMember then some (.mapping entries) else none
  | _, _ => none

/-- Whether the value of a type is the collection that it was given. -/
def keepsCollection (tag : Tag) : Bool := tag.kind != .scalar && tag != pairs

/-- Why a type cannot even be tried on a content that is no text: it asks for something that only
texts have. -/
def misuse? (tag : Tag) (content : Tree) : Option Complaint :=
  match tag, content with
  | int, .bytes _ => some (.notText "charCodeAt")
  | float, .number n => (float? n.text).map fun _ => .notText "toLowerCase"
  | float, .bytes octets =>
    (float? (Text.joined "," (octets.map toString))).map fun _ => .notText "toLowerCase"
  | binary, .bool _ | binary, .number _ | binary, .date _ => some (.notText "replace")
  | binary, .bytes _ => some (.notText "charAt")
  | _, _ => none

/-- The types that plain scalars are tried for, in order. -/
def implicit : List Tag := [null, bool, int, float, timestamp, merge]

/-- The type and the value of a plain scalar; none when it is text. -/
def ofPlain? (content : Tree) : Option (Tag × Tree) :=
  implicit.findSome? fun tag => (value? tag content).map fun value => (tag, value)

/-- The full tag of a type. -/
def text (tag : Tag) : String :=
  standardTags ++ ((names.find? fun entry => entry.2 == tag).map Prod.fst).getD ""

/-- The type of a full tag on a node of a kind. On an empty node any type may stand. -/
def on? (tag : String) (kind : Option NodeKind) : Option Tag :=
  (ofText? tag).filter fun t => kind.all (· == t.kind)

end Tag
end ComposeLint.Yaml
