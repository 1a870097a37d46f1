/-!
# Simpler patterns

Before patterns are used they are made simpler, as lists of the texts between their slashes. Empty
parts and points are dropped, a name and the step back after it cancel out, and `**/..` is split so
that as few directories as possible are searched twice (`simplified`). Then a pattern goes that
another one covers (`withoutCovered`).
-/

namespace ComposeLint.Discovery

/-- The texts between the slashes of a pattern. -/
abbrev Texts := List String

namespace Texts

/-- Whether a text stays or goes back instead of naming something. -/
def isStill (text : String) : Bool := text == "" || text == "." || text == ".."

/-- A pattern with each run of `**` made one, and the patterns that are split off it. A pattern with
`**/..` and two names after it is split into one without `**` and one without `..`. -/
def split (before : Texts) : Texts → Texts × List Texts
  | [] => (before.reverse, [])
  | "**" :: ".." :: a :: b :: rest =>
    if isStill a || isStill b then split ("**" :: before) (".." :: a :: b :: rest)
    else
      let (main, others) := split (".." :: before) (a :: b :: rest)
      (main, (before.reverse ++ "**" :: a :: b :: rest) :: others)
  | text :: rest =>
    if text == "**" && rest.head? == some "**" then split before rest
    else split (text :: before) rest

/-- The parts after the first without empty ones and points; the last part stays. An empty part
after an empty first one stays if `isSecond`. -/
def withoutPoints (isSecond : Bool) : Texts → Texts
  | [] => []
  | [last] => [last]
  | text :: rest =>
    if text == "." || (text == "" && !isSecond) then withoutPoints isSecond rest
    else text :: withoutPoints false rest

/-- A pattern without empty parts and points inside it. -/
def squeezed : Texts → Texts
  | [] => []
  | first :: rest =>
    match first, withoutPoints (first == "") rest with
    | ".", ["."] | ".", [""] => ["."]
    | first, rest => first :: rest

/-- A pattern in which names and the steps back after them cancel out; `before` is what has been
gone through, last part first. With `keepsDot`, a point takes the place of the first name if `**`
comes next. -/
def stepped (keepsDot : Bool) : Texts → Texts → Texts
  | before, [] => before.reverse
  | name :: before, ".." :: rest =>
    if isStill name || name == "**" then stepped keepsDot (".." :: name :: before) rest
    else if before.isEmpty && keepsDot && rest.head? == some "**" then stepped keepsDot ["."] rest
    else if before.isEmpty && rest.isEmpty then [""]
    else stepped keepsDot before rest
  | before, text :: rest => stepped keepsDot (text :: before) rest

/-- One round of simplification of a pattern, and the patterns that are split off. -/
def round (texts : Texts) : Texts × List Texts :=
  let (main, others) := split [] texts
  (stepped true [] (squeezed main), others)

/-- One round of simplification of patterns. What is split off comes last, and is simplified as
well. -/
def roundAll : Nat → List Texts → List Texts
  | 0, patterns => patterns
  | depth + 1, patterns =>
    let done := patterns.map round
    let others := done.flatMap (·.2)
    done.map (·.1) ++ if others.isEmpty then [] else roundAll depth others

/-- Patterns simplified until nothing changes, in at most some rounds. -/
def settled (depth : Nat) : Nat → List Texts → List Texts
  | 0, patterns => patterns
  | rounds + 1, patterns =>
    let next := roundAll depth patterns
    if next == patterns then patterns else settled depth rounds next

/-- **Patterns that are as simple as they get.** Whatever is simplified gets shorter, so that the
longest pattern bounds the rounds. -/
def simplified (patterns : List Texts) : List Texts :=
  let longest := (patterns.map List.length).foldl max 0 + 1
  settled longest longest patterns

/-! ## Covered patterns -/

/-- Which of two patterns has been found to cover the other. -/
inductive Wider where
  | neither | first | second
  deriving DecidableEq, Repr

/-- Whether an asterisk stands for a text. -/
def isStarred (withHidden : Bool) (text : String) : Bool :=
  text != "" && text != "**" && (withHidden || text.toList.head? != some '.')

/-- The pattern that covers two patterns, if it is one of them. -/
def coverFrom? (withHidden : Bool) : Nat → Wider → Texts → Texts → Option Texts
  | 0, _, _, _ => none
  | _, _, [], _ | _, _, _, [] => some []
  | fuel + 1, wider, a :: as, b :: bs =>
    if a == b then (coverFrom? withHidden fuel wider as bs).map (a :: ·)
    else if a == "**" && as.head? == some b then
      (coverFrom? withHidden fuel wider as (b :: bs)).map (a :: ·)
    else if b == "**" && bs.head? == some a then
      (coverFrom? withHidden fuel wider (a :: as) bs).map (b :: ·)
    else if a == "*" && isStarred withHidden b then
      if wider = .second then none
      else (coverFrom? withHidden fuel .first as bs).map (a :: ·)
    else if b == "*" && isStarred withHidden a then
      if wider = .first then none
      else (coverFrom? withHidden fuel .second as bs).map (b :: ·)
    else none

/-- The pattern that covers two patterns of one length, if it is one of them. -/
def cover? (withHidden : Bool) (a b : Texts) : Option Texts :=
  if a.length = b.length then
    coverFrom? withHidden (a.length + b.length + 1) .neither a b
  else none

/-- Patterns with the first one that a pattern covers, or is covered by, replaced by the wider of
the two. -/
def replaceCovered? (withHidden : Bool) (a : Texts) : List Texts → Option (List Texts)
  | [] => none
  | b :: rest =>
    match cover? withHidden a b with
    | some wider => some (wider :: rest)
    | none => (replaceCovered? withHidden a rest).map (b :: ·)

theorem replaceCovered?_length {withHidden : Bool} {a : Texts} {patterns replaced : List Texts}
    (h : replaceCovered? withHidden a patterns = some replaced) :
    replaced.length = patterns.length := by
  induction patterns generalizing replaced with
  | nil => simp [replaceCovered?] at h
  | cons b rest ih =>
    unfold replaceCovered? at h
    split at h
    · simp_all
      rw [← h]
      rfl
    · obtain ⟨replacedRest, hr, rfl⟩ := Option.map_eq_some_iff.1 h
      simp [ih hr]

/-- **Patterns of which none covers a later one.** -/
def withoutCovered (withHidden : Bool) : List Texts → List Texts
  | [] => []
  | a :: rest =>
    match h : replaceCovered? withHidden a rest with
    | some replaced =>
      have := replaceCovered?_length h
      withoutCovered withHidden replaced
    | none => a :: withoutCovered withHidden rest
termination_by patterns => patterns.length

end Texts
end ComposeLint.Discovery
