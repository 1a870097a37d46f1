import ComposeLint.Tree
import ComposeLint.Text.Search

/-!
# The JSON text of a tree

Two layouts of one format: `Tree.json` has no blanks, `Tree.prettyJson` puts every item and
entry on a line of its own, indented by two blanks per level, and keeps empty collections on
one line. Characters other than the quote, the backslash and the controls stand for
themselves. A number that is not finite is `null`, and an instant is its sortable text. A tree
with a ring has no finite text; of a ring the part before it comes again is written, with `null`
in that place, and `Tree.circle?` finds such places beforehand.
-/

namespace ComposeLint

/-- A hexadecimal digit. -/
def hexDigit (n : Nat) : Char := "0123456789abcdef".toList.getD n '0'

/-- How a character is written inside a quoted text. -/
def escapedChar (c : Char) : List Char :=
  match c with
  | '"' => ['\\', '"']
  | '\\' => ['\\', '\\']
  | '\n' => ['\\', 'n']
  | '\r' => ['\\', 'r']
  | '\t' => ['\\', 't']
  | _ =>
    if c.toNat = 0x08 then ['\\', 'b']
    else if c.toNat = 0x0C then ['\\', 'f']
    else if c.toNat < 0x20 then
      ['\\', 'u', '0', '0', hexDigit (c.toNat / 16), hexDigit (c.toNat % 16)]
    else [c]

/-- A text between quotes. -/
def quoted (s : String) : String :=
  String.ofList ('"' :: (s.toList.flatMap escapedChar ++ ['"']))

namespace Tree

/-- The text of a scalar. A list or a mapping has none of its own. -/
def scalarJson : Tree → String
  | .bool true => "true"
  | .bool false => "false"
  | .number (.finite value) => (Number.finite value).text
  | .text s => quoted s
  | .date t => quoted t.isoText
  | _ => "null"

mutual
/-- The JSON text without blanks. -/
def json : Tree → String
  | .list items => "[" ++ Text.joined "," (jsonItems items) ++ "]"
  | .mapping entries =>
    let fields := (readingOrder (jsonFields entries)).map fun f => quoted f.1 ++ ":" ++ f.2
    "\x7b" ++ Text.joined "," fields ++ "\x7d"
  | .bytes octets =>
    let fields := octets.zipIdx.map fun (n, i) => quoted (toString i) ++ ":" ++ toString n
    "\x7b" ++ Text.joined "," fields ++ "\x7d"
  | .ring _ content => json content
  | other => scalarJson other

/-- The texts of the items of a list. -/
def jsonItems : List Tree → List String
  | [] => []
  | item :: rest => json item :: jsonItems rest

/-- The texts of the values of a mapping, each with its key. -/
def jsonFields : List (String × Tree) → List (String × String)
  | [] => []
  | (key, value) :: rest => (key, json value) :: jsonFields rest
end

/-- Lines between an opening and a closing bracket, indented for the given depth. -/
def bracketed (opening closing : String) (depth : Nat) (lines : List String) : String :=
  if lines.isEmpty then opening ++ closing
  else
    let indent := String.ofList (List.replicate (2 * (depth + 1)) ' ')
    let outer := String.ofList (List.replicate (2 * depth) ' ')
    opening ++ "\n" ++ Text.joined ",\n" (lines.map (indent ++ ·)) ++ "\n" ++ outer ++ closing

mutual
/-- The JSON text with one item or entry to a line, at the given depth. -/
def prettyAt : Tree → Nat → String
  | .list items, depth => bracketed "[" "]" depth (prettyItems items (depth + 1))
  | .mapping entries, depth =>
    let fields := readingOrder (prettyFields entries (depth + 1))
    bracketed "\x7b" "\x7d" depth (fields.map fun f => quoted f.1 ++ ": " ++ f.2)
  | .bytes octets, depth =>
    bracketed "\x7b" "\x7d" depth
      (octets.zipIdx.map fun (n, i) => quoted (toString i) ++ ": " ++ toString n)
  | .ring _ content, depth => prettyAt content depth
  | other, _ => scalarJson other

/-- The texts of the items of a list. -/
def prettyItems : List Tree → Nat → List String
  | [], _ => []
  | item :: rest, depth => prettyAt item depth :: prettyItems rest depth

/-- The texts of the values of a mapping, each with its key. -/
def prettyFields : List (String × Tree) → Nat → List (String × String)
  | [], _ => []
  | (key, value) :: rest, depth => (key, prettyAt value depth) :: prettyFields rest depth
end

/-- The JSON text with one item or entry to a line. -/
def prettyJson (tree : Tree) : String := prettyAt tree 0

end Tree
end ComposeLint
