import ComposeLint.Discovery.Wildcard.CharacterClass

/-!
# Expressions

A wildcard is matched by an expression, which is first written down as a list of tokens. The tokens
have a text, which a message about a faulty expression shows, and they are read as an `Expression`,
which says what is matched.

An expression works on the units of a name or, when it is wide, on its characters. It is looked for
anywhere in a name; `^` and `$` hold it to the ends.
-/

namespace ComposeLint.Discovery

/-- How often something is repeated. -/
inductive Repetition where
  | atMostOnce | anyNumber | atLeastOnce
  deriving DecidableEq, Repr

/-- A token of an expression. -/
inductive Token where
  /-- A unit that stands for itself, written with a backslash or without. -/
  | unit (value : Nat) (isEscaped : Bool)
  | oneOf (members : MemberList)
  /-- Anything but a slash. -/
  | anyInName
  /-- Anything but the end of a line. -/
  | anyInLine
  | startOfName
  | endOfName
  | bar
  | openGroup
  /-- Begins a group of what must not follow. -/
  | openWithout
  /-- Begins a group that is remembered. -/
  | openNumbered
  | closeGroup
  | repeated (times : Repetition) (isLazy : Bool)
  deriving DecidableEq, Repr

namespace Token

/-- The token of a character that stands for itself. -/
def char (c : Char) (isEscaped : Bool) : Token := unit c.toNat isEscaped

/-- The text of a repetition. -/
def repetitionText : Repetition → String
  | .atMostOnce => "?"
  | .anyNumber => "*"
  | .atLeastOnce => "+"

/-- The text of a token whose text has no units of a pattern. -/
def fixedText : Token → String
  | unit .. | oneOf _ => ""
  | anyInName => "[^/]"
  | anyInLine => "."
  | startOfName => "^"
  | endOfName => "$"
  | bar => "|"
  | openGroup => "(?:"
  | openWithout => "(?!"
  | openNumbered => "("
  | closeGroup => ")"
  | repeated times isLazy => repetitionText times ++ if isLazy then "?" else ""

/-- The text of a token. -/
def text : Token → List Nat
  | unit value isEscaped => if isEscaped then ['\\'.toNat, value] else [value]
  | oneOf members => members.text
  | token => token.fixedText.toList.map Char.toNat

/-- Whether the text of a token begins with a bracket. -/
def beginsBracket : Token → Bool
  | oneOf _ | anyInName => true
  | _ => false

/-- Whether what ends in a token can be repeated. -/
def isRepeatable : Token → Bool
  | unit .. | oneOf _ | anyInName | anyInLine | closeGroup => true
  | _ => false

end Token

/-- What is wrong with an expression. -/
inductive ExpressionFlaw where
  /-- A backslash before a unit that needs none, in a wide expression. -/
  | invalidEscape
  | nothingToRepeat
  /-- A range whose ends are in the wrong order. -/
  | reversedRange
  deriving DecidableEq, Repr

namespace ExpressionFlaw

/-- The wording of a flaw. -/
def message : ExpressionFlaw → String
  | invalidEscape => "Invalid escape"
  | nothingToRepeat => "Nothing to repeat"
  | reversedRange => "Range out of order in character class"

end ExpressionFlaw

/-- Units that a backslash may stand before in a wide expression. -/
def mayBeEscaped (unit : Nat) : Bool :=
  "^$\\.*+?()[]\x7b\x7d|/".toList.any fun c => c.toNat == unit

/-- The flaw of a token. -/
def Token.flaw? (isWide canRepeat : Bool) : Token → Option ExpressionFlaw
  | unit value isEscaped =>
    if isWide && isEscaped && !mayBeEscaped value then some .invalidEscape else none
  | oneOf members =>
    if MemberList.hasReversed (members.spelling isWide) then some .reversedRange else none
  | repeated .. => if canRepeat then none else some .nothingToRepeat
  | _ => none

/-- The first flaw of an expression. -/
def Token.firstFlaw? (isWide : Bool) : Bool → List Token → Option ExpressionFlaw
  | _, [] => none
  | canRepeat, token :: rest =>
    (token.flaw? isWide canRepeat).or (firstFlaw? isWide token.isRepeatable rest)

/-! ## Meaning -/

/-- What is matched. -/
inductive Expression where
  | empty
  | value (n : Nat)
  | oneOf (members : MemberList) (isWide : Bool)
  | anyInName
  | anyInLine
  | startOfName
  | endOfName
  | sequence (first second : Expression)
  | either (first second : Expression)
  | anyNumber (e : Expression)
  /-- Matches nothing, where something does not match. -/
  | without (e : Expression)
  deriving Repr

namespace Expression

/-- An expression repeated. -/
def repeated (e : Expression) : Repetition → Expression
  | .atMostOnce => either e empty
  | .anyNumber => anyNumber e
  | .atLeastOnce => sequence e (anyNumber e)

/-- Whether an expression of one value matches it. -/
def takes (n : Nat) : Expression → Bool
  | value m => m == n
  | oneOf members isWide => members.contains isWide n
  | anyInName => n != '/'.toNat
  | anyInLine => !CharacterClass.endsLine n
  | _ => false

/-- What can be reached by a step, in at most `rounds` rounds, from what has been found last. -/
def closure (step : List Nat → List (List Nat)) :
    Nat → List (List Nat) → List (List Nat) → List (List Nat)
  | 0, found, _ => found
  | rounds + 1, found, last =>
    let fresh := ((last.flatMap step).filter fun rest => !found.contains rest).eraseDups
    if fresh.isEmpty then found else closure step rounds (found ++ fresh) fresh

/-- What is left of a name after an expression has matched at a place, in every way it can. The name
has `size` values in all. -/
def rests (size : Nat) : Expression → List Nat → List (List Nat)
  | empty, left => [left]
  | startOfName, left => if left.length = size then [left] else []
  | endOfName, left => if left.isEmpty then [left] else []
  | sequence first second, left =>
    ((first.rests size left).flatMap (second.rests size)).eraseDups
  | either first second, left => (first.rests size left ++ second.rests size left).eraseDups
  | anyNumber e, left => closure (e.rests size) left.length [left] [left]
  | without e, left => if (e.rests size left).isEmpty then [left] else []
  | e, left =>
    match left with
    | n :: rest => if e.takes n then [rest] else []
    | [] => []

/-- **Whether an expression matches somewhere in a name.** -/
def isFoundIn (e : Expression) (name : List Nat) : Bool :=
  (List.range (name.length + 1)).any fun i => !(e.rests name.length (name.drop i)).isEmpty

/-! ## Reading -/

/-- A group that is being read. -/
structure Frame where
  isWithout : Bool := false
  /-- The alternatives before the last bar. -/
  before : Option Expression := none
  /-- The items of the alternative that is being read, last first. -/
  items : List Expression := []

namespace Frame

/-- The alternative that is being read. -/
def alternative (frame : Frame) : Expression :=
  frame.items.foldl (fun rest item => sequence item rest) empty

/-- All alternatives. -/
def whole (frame : Frame) : Expression :=
  match frame.before with
  | some before => either before frame.alternative
  | none => frame.alternative

/-- What a group stands for. -/
def meaning (frame : Frame) : Expression :=
  if frame.isWithout then .without frame.whole else frame.whole

/-- Goes on with an item. -/
def push (frame : Frame) (item : Expression) : Frame :=
  { frame with items := item :: frame.items }

/-- Goes on with a token that opens and closes nothing. -/
def take (isWide : Bool) (frame : Frame) : Token → Frame
  | .unit n _ => frame.push (.value n)
  | .oneOf members => frame.push (.oneOf members isWide)
  | .anyInName => frame.push .anyInName
  | .anyInLine => frame.push .anyInLine
  | .startOfName => frame.push .startOfName
  | .endOfName => frame.push .endOfName
  | .bar => { frame with before := some frame.whole, items := [] }
  | .repeated times _ =>
    match frame.items with
    | item :: items => { frame with items := item.repeated times :: items }
    | [] => frame
  | .openGroup | .openWithout | .openNumbered | .closeGroup => frame

end Frame

/-- Reads tokens; `outer` are the groups around the one that is being read. -/
def reading (isWide : Bool) : List Frame → Frame → List Token → Expression
  | _, frame, [] => frame.whole
  | outer, frame, .openGroup :: rest | outer, frame, .openNumbered :: rest =>
    reading isWide (frame :: outer) {} rest
  | outer, frame, .openWithout :: rest =>
    reading isWide (frame :: outer) { isWithout := true } rest
  | around :: outer, frame, .closeGroup :: rest =>
    reading isWide outer (around.push frame.meaning) rest
  | outer, frame, token :: rest => reading isWide outer (frame.take isWide token) rest

/-- Tokens in which two halves that follow each other are one character. -/
def wholes : List Token → List Token
  | .unit high false :: .unit low false :: rest =>
    if 0xD800 ≤ high ∧ high < 0xDC00 ∧ 0xDC00 ≤ low ∧ low < 0xE000 then
      .unit (0x10000 + (high - 0xD800) * 0x400 + (low - 0xDC00)) false :: wholes rest
    else .unit high false :: wholes (.unit low false :: rest)
  | token :: rest => token :: wholes rest
  | [] => []

/-- **The expression that tokens write down.** -/
def ofTokens (isWide : Bool) (tokens : List Token) : Expression :=
  reading isWide [] {} (if isWide then wholes tokens else tokens)

end Expression
end ComposeLint.Discovery
