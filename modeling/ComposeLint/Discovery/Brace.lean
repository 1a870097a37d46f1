/-!
# Braces

A pair of braces in a pattern lists alternatives: texts between commas, or a sequence of numbers
or letters. A pattern with braces stands for the texts that it expands to. `expansions` gives
them; a pair that lists nothing stays as it is written.
-/

namespace ComposeLint.Discovery.Brace

/-- A character of a pattern. A quoted one has no meaning for braces. -/
inductive Mark where
  | plain (c : Char)
  | quoted (c : Char)
  deriving DecidableEq, Repr

/-- The character of a mark. -/
def Mark.char : Mark → Char
  | plain c | quoted c => c

/-- The characters that a backslash quotes. -/
def quotable : List Char := ['\\', '{', '}', ',', '.']

/-- The marks of a text. A backslash before a quotable character quotes it and goes away. -/
def marks : List Char → List Mark
  | [] => []
  | [c] => [.plain c]
  | c :: d :: rest =>
    if c == '\\' && quotable.contains d then .quoted d :: marks rest
    else .plain c :: marks (d :: rest)

/-- The marks of a text without any backslash. -/
def plainMarks (cs : List Char) : List Mark := cs.map .plain

/-! ## Pairs -/

/-- What is before and after the brace that closes `depth` pairs and the one around them. -/
def close? : Nat → List Mark → Option (List Mark × List Mark)
  | _, [] => none
  | depth, .plain '}' :: rest =>
    match depth with
    | 0 => some ([], rest)
    | depth + 1 => (close? depth rest).map fun cut => (.plain '}' :: cut.1, cut.2)
  | depth, .plain '{' :: rest =>
    (close? (depth + 1) rest).map fun cut => (.plain '{' :: cut.1, cut.2)
  | depth, mark :: rest => (close? depth rest).map fun cut => (mark :: cut.1, cut.2)

/-- A text cut around a pair of braces. -/
structure Cut where
  before : List Mark
  body : List Mark
  after : List Mark
  deriving DecidableEq, Repr

/-- The text cut around the first brace that is closed. -/
def cut? : List Mark → Option Cut
  | [] => none
  | mark :: rest =>
    let here := if mark = .plain '{' then close? 0 rest else none
    match here with
    | some (body, after) => some { before := [], body, after }
    | none => (cut? rest).map fun cut => { cut with before := mark :: cut.before }

/-- The text that is cut. -/
def Cut.whole (cut : Cut) : List Mark :=
  cut.before ++ .plain '{' :: cut.body ++ .plain '}' :: cut.after

/-- The parts of a text between commas; `depth` pairs of braces are open. A brace that is not
closed is a character like any other. -/
def parts : Nat → List Mark → List (List Mark)
  | _, [] => [[]]
  | depth, mark :: rest =>
    if depth == 0 && mark == .plain ',' then [] :: parts 0 rest
    else
      let after :=
        if mark = .plain '{' then
          if depth == 0 && (close? 0 rest).isNone then 0 else depth + 1
        else if mark = .plain '}' then depth - 1
        else depth
      match parts after rest with
      | [] => [[mark]]
      | part :: more => (mark :: part) :: more

/-! ## Sequences -/

/-- A sequence of values from one to another. -/
structure Sequence where
  first : Int
  last : Int
  /-- The distance between values. -/
  step : Nat
  /-- Digits to fill up with zeros; none if nothing is filled up. -/
  width : Option Nat
  isAlphabetic : Bool
  deriving DecidableEq, Repr

namespace Sequence

/-- The values of a sequence. -/
def values (s : Sequence) : List Int :=
  (List.range ((s.last - s.first).natAbs / s.step + 1)).map fun i : Nat =>
    if s.first ≤ s.last then s.first + i * s.step else s.first - i * s.step

/-- A number, filled up with zeros after its sign. -/
def padded (width : Nat) (n : Int) : List Char :=
  let digits := (toString n.natAbs).toList
  let sign := if n < 0 then ['-'] else []
  sign ++ List.replicate (width - (sign ++ digits).length) '0' ++ digits

/-- The text of a value. A backslash among letters is no text. -/
def text (s : Sequence) (n : Int) : List Char :=
  if s.isAlphabetic then if n == 92 then [] else [Char.ofNat n.toNat]
  else padded (s.width.getD 0) n

end Sequence

/-- The number that some digits after an optional sign spell. -/
def number? : List Char → Option Int
  | '-' :: digits =>
    (number? digits).bind fun n => if digits.head? == some '-' then none else some (-n)
  | digits =>
    if !digits.isEmpty && digits.all (·.isDigit) then
      some (digits.foldl (fun n c => n * 10 + (c.toNat - 48)) 0 : Nat)
    else none

/-- A single letter as a number. -/
def letter? : List Char → Option Int
  | [c] => if c.isAlpha then some c.toNat else none
  | _ => none

/-- Whether a number is written with a needless zero. -/
def isPadded : List Char → Bool
  | '-' :: '0' :: c :: _ | '0' :: c :: _ => c.isDigit
  | _ => false

/-- The texts between double points. -/
def fields : List Char → List (List Char)
  | [] => [[]]
  | '.' :: '.' :: rest => [] :: fields rest
  | c :: rest =>
    match fields rest with
    | [] => [[c]]
    | field :: more => (c :: field) :: more

/-- The sequence that fields ask for. -/
def ofFields? (first last : List Char) (step : List Char) : Option Sequence := do
  let distance := max (← number? step).natAbs 1
  match number? first, number? last with
  | some a, some b =>
    let isFilled := [first, last, step].any isPadded
    some
      { first := a, last := b, step := distance, isAlphabetic := false
        width := if isFilled then some (max first.length last.length) else none }
  | _, _ =>
    some
      { first := ← letter? first, last := ← letter? last, step := distance, width := none
        isAlphabetic := true }

/-- The sequence that a pair of braces asks for. -/
def sequence? (body : List Mark) : Option Sequence :=
  if body.all fun mark => mark == .plain mark.char then
    match fields (body.map Mark.char) with
    | [first, last] => ofFields? first last ['1']
    | [first, last, step] => ofFields? first last step
    | _ => none
  else none

/-! ## Expansion -/

/-- Whether a character ends a line. -/
def endsLine (c : Char) : Bool := c == '\n' || c == '\r' || c == '\u2028' || c == '\u2029'

/-- Whether a closing brace follows on the same line. -/
def closesLine (rest : List Mark) : Bool :=
  (rest.takeWhile fun mark => !endsLine mark.char).contains (.plain '}')

/-- Whether a comma that no other follows is followed by a closing brace on its line. -/
def goesOn : List Mark → Bool
  | [] => false
  | mark :: rest =>
    (mark == .plain ',' && rest.head? != some (.plain ',') && closesLine rest) || goesOn rest

/-- A text between braces. -/
def embraced (ms : List Mark) : List Mark := .plain '{' :: ms ++ [.plain '}']

/-- Every text of the second list after every text of the first. -/
def joined (starts ends : List (List Mark)) : List (List Mark) :=
  starts.flatMap fun start => ends.map (start ++ ·)

/-- The expansions of a text with at most `fuel` braces. Outermost alternatives that are empty are
left out. -/
def expand : Nat → Bool → List Mark → List (List Mark)
  | 0, _, ms => [ms]
  | fuel + 1, isOutermost, ms =>
    match cut? ms with
    | none => [ms]
    | some cut =>
      let ends := if cut.after.isEmpty then [[]] else expand fuel false cut.after
      if cut.before.getLast? == some (.plain '$') then
        joined [cut.before ++ embraced cut.body] ends
      else
        match sequence? cut.body with
        | some s =>
          joined (s.values.map fun n => cut.before ++ plainMarks (s.text n)) ends
        | none =>
          if cut.body.contains (.plain ',') then
            let listed (several : List (List Mark)) :=
              let starts := (several.flatMap (expand fuel false)).map (cut.before ++ ·)
              (joined starts ends).filter fun ms => !isOutermost || !ms.isEmpty
            match parts 0 cut.body with
            | [part] =>
              match (expand fuel false part).map embraced with
              | [single] => joined [cut.before ++ single] ends
              | several => listed several
            | several => listed several
          else if goesOn cut.after then
            expand fuel false
              (cut.before ++ .plain '{' :: cut.body ++ .quoted '}' :: cut.after)
          else [ms]

/-- Whether an opening brace is closed on its line, with no other opening brace in between. -/
def isListed : Bool → List Char → Bool
  | _, [] => false
  | isOpen, c :: rest =>
    if c == '{' then isListed true rest
    else if c == '}' && isOpen then true
    else isListed (isOpen && !endsLine c) rest

/-- The marks of a whole pattern. Empty braces at its start are quoted. -/
def patternMarks (cs : List Char) : List Mark :=
  match marks cs with
  | .plain '{' :: .plain '}' :: rest => .quoted '{' :: .quoted '}' :: rest
  | ms => ms

/-- **The texts that a pattern stands for.** -/
def expansions (cs : List Char) : List (List Char) :=
  if isListed false cs then
    let ms := patternMarks cs
    let braces := ms.countP fun mark => mark == .plain '{' || mark == .plain '}'
    (expand (braces + 1) true ms).map (·.map Mark.char)
  else [cs]

end ComposeLint.Discovery.Brace
