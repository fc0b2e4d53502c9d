import RegulatoryReporting.Number.Binary64
import RegulatoryReporting.Pattern.Bracket
import RegulatoryReporting.Text.PropertyTable

/-!
# Reading Patterns

The text of a pattern is read from left to right: alternatives are separated by bars, the
parts of an alternative follow each other, and a repetition sign applies to the part just
before it. The groups that are open are kept in a list, the innermost first.

A text is no pattern when a group or a bracket is not closed, when a repetition has
nothing to repeat, when its bounds are reversed or unreadable, when an escape means
nothing, or when a group looks around itself.
-/

namespace RegulatoryReporting.Pattern

/-! ### Repetitions -/

/-- The greatest bound of a repetition. -/
def maxBound : Nat := twoPow 32 - 1

/-- A bound, with blanks around it. -/
def readBound? (verbose : Bool) (cs : List Char) : Option (Nat × List Char) :=
  let (digits, rest) := spacedWhile Char.isDigit verbose (cs.dropWhile Text.isWhiteSpace)
  let n := digitsValue digits
  if digits.isEmpty || maxBound < n then none
  else some (n, skip verbose (rest.dropWhile Text.isWhiteSpace))

/-- The bounds between braces, after the opening brace. -/
def readBounds? (verbose : Bool) (cs : List Char) :
    Option (Nat × Option Nat × List Char) := do
  let (min, rest) ← readBound? verbose (skip verbose cs)
  match rest with
  | '\x7d' :: rest => return (min, some min, rest)
  | ',' :: rest =>
    match skip verbose rest with
    | '\x7d' :: rest => return (min, none, rest)
    | rest =>
      match ← readBound? verbose rest with
      | (max, '\x7d' :: rest) => if min ≤ max then return (min, some max, rest) else none
      | _ => none
  | _ => none

/-- Whether a repetition prefers many rounds, and the text after the question mark that
says otherwise. -/
def readGreed : List Char → Bool × List Char
  | '?' :: rest => (false, rest)
  | cs => (true, cs)

/-! ### Groups -/

/-- Whether a character may begin the name of a group. -/
def beginsName (c : Char) : Bool := c == '_' || Text.alphabetic.contains c

/-- Whether a character may stand in the name of a group. -/
def continuesName (c : Char) : Bool :=
  beginsName c || c == '.' || c == '[' || c == ']' || Text.numeric.contains c

/-- The name of a group up to the closing angle bracket. -/
def readGroupName? (cs : List Char) : Option (List Char × List Char) :=
  match cs.takeWhile (· != '>'), cs.dropWhile (· != '>') with
  | c :: more, _ :: rest =>
    if beginsName c && more.all continuesName then some (c :: more, rest) else none
  | _, _ => none

/-- How a group opens. -/
inductive Opening
  /-- A group that is counted, with its name if it has one. -/
  | capture (name? : Option (List Char))
  /-- A group that only holds together, with a change of flags. -/
  | plain (change : FlagChange)
  /-- No group, but flags for the rest of the group around it. -/
  | flags (change : FlagChange)

/-- What follows an opening parenthesis. Groups that look around are refused, and so is a
question mark without flags. -/
def readOpening? (cs : List Char) : Option (Opening × List Char) :=
  match cs with
  | '?' :: '=' :: _ => none
  | '?' :: '!' :: _ => none
  | '?' :: '<' :: '=' :: _ => none
  | '?' :: '<' :: '!' :: _ => none
  | '?' :: 'P' :: '<' :: cs =>
    (readGroupName? cs).map fun (name, rest) => (.capture (some name), rest)
  | '?' :: '<' :: cs =>
    (readGroupName? cs).map fun (name, rest) => (.capture (some name), rest)
  | '?' :: cs =>
    match FlagChange.ofText? cs with
    | some (change, ':' :: rest) => some (.plain change, rest)
    | some (change, ')' :: rest) =>
      if change.isEmpty then none else some (.flags change, rest)
    | _ => none
  | cs => some (.capture none, cs)

/-! ### Open groups -/

/-- A group that is not closed yet; the outermost one stands for the whole pattern. -/
structure OpenGroup where
  /-- What the group does. -/
  kind : GroupKind
  /-- Whether the pattern is verbose around the group. -/
  verboseAround : Bool
  /-- The alternatives that are complete, the last first. -/
  branches : List Expression := []
  /-- The parts of the alternative that is not, the last first. -/
  parts : List Expression := []

namespace OpenGroup

/-- The group with one more part. -/
def push (g : OpenGroup) (part : Expression) : OpenGroup :=
  { g with parts := part :: g.parts }

/-- The alternatives, the last of them with the parts so far, in reverse order. -/
def allBranches (g : OpenGroup) : List Expression :=
  Expression.ofParts g.parts.reverse :: g.branches

/-- The group after a bar. -/
def nextBranch (g : OpenGroup) : OpenGroup :=
  { g with branches := g.allBranches, parts := [] }

/-- What the group holds. -/
def body (g : OpenGroup) : Expression := Expression.ofBranches g.allBranches.reverse

/-- The group with its last part repeated, if there is one that can be. -/
def repeatLast? (g : OpenGroup) (min : Nat) (max : Option Nat) (greedy : Bool) :
    Option OpenGroup :=
  match g.parts with
  | [] => none
  | part :: parts =>
    if part.isRepeatable then
      some { g with parts := .repetition part min max greedy :: parts }
    else none

end OpenGroup

/-- Where the reader stands. -/
structure Reader where
  /-- The innermost open group. -/
  inner : OpenGroup
  /-- The groups around it. -/
  outer : List OpenGroup := []
  /-- Whether white space and comments mean nothing here. -/
  verbose : Bool := false
  /-- How many groups are counted so far. -/
  captures : Nat := 0
  /-- The names that groups have taken. -/
  names : List (List Char) := []

namespace Reader

/-- The reader before the first character. -/
def start : Reader where
  inner := { kind := .plain [], verboseAround := false }

/-- The reader with one more part in the innermost group. -/
def push (r : Reader) (part : Expression) : Reader := { r with inner := r.inner.push part }

/-- The reader within a new group. -/
def enter (r : Reader) (kind : GroupKind) (verbose : Bool) : Reader :=
  { r with
    inner := { kind, verboseAround := r.verbose }, outer := r.inner :: r.outer, verbose }

/-- The reader after the opening of a group; no two groups have one name. -/
def open? (r : Reader) : Opening → Option Reader
  | .flags change =>
    some { r.push (.flags change) with verbose := change.apply .verbose r.verbose }
  | .plain change => some (r.enter (.plain change) (change.apply .verbose r.verbose))
  | .capture name? =>
    if name?.any r.names.contains then none
    else
      let index := r.captures + 1
      some { r.enter (.capture index) r.verbose with
        captures := index, names := name?.toList ++ r.names }

/-- The reader after the innermost group is closed, which the whole pattern cannot be. -/
def close? (r : Reader) : Option Reader :=
  match r.outer with
  | [] => none
  | around :: outer =>
    some { r with
      inner := around.push (.group r.inner.kind r.inner.body)
      outer
      verbose := r.inner.verboseAround }

/-- The reader after a repetition sign. -/
def repeat? (r : Reader) (min : Nat) (max : Option Nat) (greedy : Bool) : Option Reader :=
  (r.inner.repeatLast? min max greedy).map fun inner => { r with inner }

end Reader

/-! ### Reading -/

/-- A part other than a group or a bracket: a point, an anchor, an escape or a character. -/
def readPart? (verbose : Bool) : List Char → Option (Expression × List Char)
  | [] => none
  | '.' :: rest => some (.point, rest)
  | '^' :: rest => some (.anchor .lineStart, rest)
  | '$' :: rest => some (.anchor .lineEnd, rest)
  | '[' :: rest => readBracket? verbose rest
  | '\\' :: rest => readEscape? verbose rest
  | c :: rest => some (.literal ⟨c, false⟩, rest)

/-- Read one sign. -/
def readSign? (r : Reader) (cs : List Char) : Option (Reader × List Char) := do
  match cs with
  | '(' :: rest =>
    let (opening, rest) ← readOpening? (skip r.verbose rest)
    return (← r.open? opening, rest)
  | ')' :: rest => return (← r.close?, rest)
  | '|' :: rest => return ({ r with inner := r.inner.nextBranch }, rest)
  | '?' :: rest =>
    let (greedy, rest) := readGreed rest
    return (← r.repeat? 0 (some 1) greedy, rest)
  | '*' :: rest =>
    let (greedy, rest) := readGreed rest
    return (← r.repeat? 0 none greedy, rest)
  | '+' :: rest =>
    let (greedy, rest) := readGreed rest
    return (← r.repeat? 1 none greedy, rest)
  | '\x7b' :: rest =>
    let (min, max, rest) ← readBounds? r.verbose rest
    let (greedy, rest) := readGreed (skip r.verbose rest)
    return (← r.repeat? min max greedy, rest)
  | cs =>
    let (part, rest) ← readPart? r.verbose cs
    return (r.push part, rest)

/-- Read to the end. Every step takes at least one character, which `fuel` counts. -/
def readAll? : Nat → Reader → List Char → Option Expression
  | 0, _, _ => none
  | fuel + 1, r, cs =>
    match skip r.verbose cs with
    | [] => if r.outer.isEmpty then some r.inner.body else none
    | c :: cs =>
      match readSign? r (c :: cs) with
      | none => none
      | some (r, rest) => readAll? fuel r rest

end RegulatoryReporting.Pattern

namespace RegulatoryReporting

/-- What a text says as a pattern, if it can be read. -/
def Expression.ofText? (s : String) : Option Expression :=
  let cs := s.toList
  Pattern.readAll? (cs.length + 1) Pattern.Reader.start cs

end RegulatoryReporting
