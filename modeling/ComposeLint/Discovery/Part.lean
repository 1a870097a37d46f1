import ComposeLint.Discovery.Wildcard.Rendering
import ComposeLint.Text.Decomposition

/-!
# Parts of patterns

A pattern is cut at its slashes into parts. A part is a name, a wildcard for one name, or stands for
any number of directories. Common wildcards have a test of their own (`QuickTest`), which goes by
the text of the wildcard as it is written; all others are matched by their expression.
-/

namespace ComposeLint.Discovery

/-- Why a pattern cannot be used. -/
inductive PatternFault where
  | tooLong
  /-- Nothing is left of a pattern. -/
  | noParts
  /-- The expression of a wildcard is flawed. -/
  | flawed (tokens : List Token) (isWide : Bool) (flaw : ExpressionFlaw)
  deriving DecidableEq, Repr

/-- The wording of a fault. -/
def PatternFault.message : PatternFault → String
  | tooLong => "pattern is too long"
  | noParts => "empty pattern list"
  | flawed tokens isWide flaw =>
    let text := String.ofList (Text.ofUnitValues (tokens.flatMap Token.text))
    "Invalid regular expression: /" ++ text ++ "/" ++ (if isWide then "u" else "") ++ ": " ++
      flaw.message

/-! ## Names -/

/-- Whether a name is hidden. -/
def isHidden (name : String) : Bool := name.toList.head? == some '.'

/-- Whether a name stands for a step instead of a file. -/
def isStep (name : String) : Bool := name == "." || name == ".."

/-- Whether a name ends in a text. -/
def endsIn (ending : List Char) (name : String) : Bool := ending.isSuffixOf name.toList

/-! ## Quick tests -/

/-- A test for the names that a common wildcard matches. -/
inductive QuickTest where
  | anything
  /-- Names with an ending. -/
  | ending (text : List Char)
  /-- Names with a number of units, and an ending. -/
  | sized (size : Nat) (text : List Char)
  /-- Names with a point in them. -/
  | pointed
  /-- Hidden names. -/
  | hidden
  deriving DecidableEq, Repr

namespace QuickTest

/-- Whether a name passes. -/
def passes (withHidden : Bool) (name : String) : QuickTest → Bool
  | anything => !name.isEmpty && if withHidden then !isStep name else !isHidden name
  | ending text => endsIn text name && (withHidden || !isHidden name)
  | sized size text =>
    Text.units name.toList == size && endsIn text name &&
      if withHidden then !isStep name else !isHidden name
  | pointed =>
    name.toList.contains '.' && if withHidden then !isStep name else !isHidden name
  | hidden => isHidden name && !isStep name

/-- Characters that an ending may not have. -/
def magicChars : List Char := ['+', '@', '!', '?', '*', '[', '(']

/-- Whether a text has nothing that an ending may not have. -/
def isPlain (cs : List Char) : Bool := cs.all fun c => !magicChars.contains c

/-- The quick test of a wildcard that has one. -/
def ofText? (cs : List Char) : Option QuickTest :=
  let afterStars := cs.dropWhile (· == '*')
  let afterMarks := cs.dropWhile (· == '?')
  let areStars (cs : List Char) : Bool := !cs.isEmpty && cs.all (· == '*')
  if areStars cs then some anything
  else if afterStars != cs && isPlain afterStars then some (ending afterStars)
  else if afterMarks != cs && isPlain afterMarks then some (sized (Text.units cs) afterMarks)
  else
    match afterStars with
    | '.' :: rest =>
      if areStars rest then some (if afterStars != cs then pointed else hidden) else none
    | _ => none

end QuickTest

/-! ## Parts -/

/-- A test for names. -/
inductive NameTest where
  | quick (test : QuickTest)
  | expression (isWide : Bool) (e : Expression)
  deriving Repr

/-- The values that an expression works on. -/
def valuesOf (isWide : Bool) (name : String) : List Nat :=
  if isWide then name.toList.map Char.toNat else name.toList.flatMap Text.unitValues

/-- Whether a name passes a test. -/
def NameTest.passes (withHidden : Bool) (name : String) : NameTest → Bool
  | quick test => test.passes withHidden name
  | expression isWide e => e.isFoundIn (valuesOf isWide name)

/-- A part of a pattern. -/
inductive Part where
  | name (text : String)
  /-- Any number of directories. -/
  | anyDepth
  | wildcard (test : NameTest)
  deriving Repr

namespace Part

/-- The units that a token stands for in a name. -/
def plainUnits : Token → List Nat
  | .unit n _ => [n]
  | token => token.text

/-- The part of a wildcard. A wildcard that has nothing but plain text is a name. -/
def ofWildcard (withHidden : Bool) (cs : List Char) : Except PatternFault Part :=
  let t := Wildcard.render withHidden cs
  if !t.isMagic then
    .ok (.name (String.ofList (Text.ofUnitValues (t.tokens.flatMap plainUnits))))
  else
    let tokens := .startOfName :: t.tokens ++ [.endOfName]
    match Token.firstFlaw? t.isWide false tokens with
    | some flaw => .error (.flawed tokens t.isWide flaw)
    | none =>
      let test :=
        match QuickTest.ofText? cs with
        | some test => NameTest.quick test
        | none => .expression t.isWide (Expression.ofTokens t.isWide tokens)
      .ok (.wildcard test)

/-- **The part that a text between slashes is.** -/
def ofText (withHidden : Bool) (text : String) : Except PatternFault Part :=
  if text == "**" then .ok .anyDepth
  else if text.isEmpty then .ok (.name "")
  else ofWildcard withHidden text.toList

/-- Whether a part matches one name. -/
def fits (withHidden : Bool) (name : String) : Part → Bool
  | .name text => text == name
  | anyDepth => false
  | wildcard test => test.passes withHidden name

/-- Whether a part finds an entry of a directory. A name finds all that look like it. -/
def finds (name : String) : Part → Bool
  | .name text => Text.lookAlike text name
  | part => part.fits false name

end Part
end ComposeLint.Discovery
