import RegulatoryReporting.Pattern.Escape

/-!
# Brackets

A bracket holds characters, ranges, escapes, named sets of ASCII and further brackets side
by side, and may be negated. Two ampersands intersect what stands before them with what
stands after, two minus signs subtract it, two tildes take the symmetric difference; the
three operations have one rank and are applied from the left.

Brackets are read with the open ones kept in a list, the innermost first, so that nesting
needs no recursion.
-/

namespace RegulatoryReporting.Pattern

/-! ### Items -/

/-- What an item of a bracket says; anchors cannot stand there. -/
def itemPart? : Expression → Option BracketPart
  | .literal c => some (.one c)
  | .letters c negated => some (.letters c negated)
  | .property q negated => some (.property q negated)
  | _ => none

/-- The range between two items, which have to be characters in order. -/
def rangePart? : Expression → Expression → Option BracketPart
  | .literal first, .literal last =>
    if first.char ≤ last.char then some (.range first last) else none
  | _, _ => none

/-- One item, and the text after it. -/
def readItem? (verbose : Bool) : List Char → Option (Expression × List Char)
  | [] => none
  | '\\' :: cs => readEscape? verbose cs
  | c :: cs => some (.literal ⟨c, false⟩, cs)

/-- An item or a range. A minus sign before a closing bracket or before another minus sign
makes no range. -/
def readRange? (verbose : Bool) (cs : List Char) : Option (BracketPart × List Char) := do
  let (first, rest) ← readItem? verbose cs
  match skip verbose rest with
  | [] => none
  | '-' :: more =>
    let next := peek? verbose more
    if next == some ']' || next == some '-' then return (← itemPart? first, '-' :: more)
    else
      let (last, rest) ← readItem? verbose (skip verbose more)
      return (← rangePart? first last, rest)
  | rest => return (← itemPart? first, rest)

/-- The names of sets of ASCII. -/
def asciiNames : List String :=
  ["alnum", "alpha", "ascii", "blank", "cntrl", "digit", "graph", "lower", "print", "punct",
    "space", "upper", "word", "xdigit"]

/-- A named set of ASCII after its opening bracket sign. Nothing is skipped within. -/
def readNamed? (cs : List Char) : Option (BracketPart × List Char) :=
  match cs with
  | ':' :: cs =>
    let negated := cs.head? == some '^'
    let cs := if negated then cs.drop 1 else cs
    let name := String.ofList (cs.takeWhile (· != ':'))
    match cs.dropWhile (· != ':') with
    | ':' :: ']' :: rest =>
      if asciiNames.contains name then some (.ascii name negated, rest) else none
    | _ => none
  | _ => none

/-- The operation that begins a text, and the text after it. -/
def readOperation? : List Char → Option (SetOperation × List Char)
  | '&' :: '&' :: cs => some (.intersection, cs)
  | '-' :: '-' :: cs => some (.difference, cs)
  | '~' :: '~' :: cs => some (.symmetric, cs)
  | _ => none

/-! ### Open brackets -/

/-- A bracket that is not closed yet. -/
structure OpenBracket where
  /-- Whether the bracket is negated. -/
  negated : Bool
  /-- The result of the operations so far, and the operation that comes next. -/
  left? : Option (BracketPart × SetOperation) := none
  /-- The items since that operation, the last first. -/
  items : List BracketPart

namespace OpenBracket

/-- The bracket with one more item. -/
def push (b : OpenBracket) (item : BracketPart) : OpenBracket :=
  { b with items := item :: b.items }

/-- What the bracket holds so far. -/
def content (b : OpenBracket) : BracketPart :=
  let right := BracketPart.ofParts b.items.reverse
  match b.left? with
  | none => right
  | some (left, op) => .operation op left right

/-- The bracket after the sign of an operation. -/
def operate (b : OpenBracket) (op : SetOperation) : OpenBracket :=
  { b with left? := some (b.content, op), items := [] }

end OpenBracket

/-- The minus signs that stand for themselves at the beginning of a bracket, and the text
after them. -/
def readLeading (verbose : Bool) (cs : List Char) : List BracketPart × List Char :=
  let (signs, rest) := spacedWhile (· == '-') verbose cs
  (signs.map fun c => .one ⟨c, false⟩, rest)

/-- A bracket after its opening sign. A closing bracket stands for itself if it comes
first. -/
def openBracket (verbose : Bool) (cs : List Char) : OpenBracket × List Char :=
  let cs := skip verbose cs
  let negated := cs.head? == some '^'
  let cs := if negated then skip verbose (cs.drop 1) else cs
  match readLeading verbose cs with
  | ([], ']' :: rest) => (⟨negated, none, [.one ⟨']', false⟩]⟩, rest)
  | (leading, rest) => (⟨negated, none, leading⟩, rest)

/-- Read up to the bracket that closes the outermost of the open ones. Every step takes at
least one character, which `fuel` counts. -/
def readBrackets? (verbose : Bool) :
    Nat → OpenBracket → List OpenBracket → List Char → Option (Expression × List Char)
  | 0, _, _, _ => none
  | fuel + 1, b, outer, cs =>
    match skip verbose cs with
    | [] => none
    | '[' :: rest =>
      match readNamed? rest with
      | some (part, rest) => readBrackets? verbose fuel (b.push part) outer rest
      | none =>
        let (inner, rest) := openBracket verbose rest
        readBrackets? verbose fuel inner (b :: outer) rest
    | ']' :: rest =>
      match outer with
      | [] => some (.bracket b.negated b.content, rest)
      | o :: outer =>
        readBrackets? verbose fuel (o.push (.nested b.negated b.content)) outer rest
    | cs =>
      match readOperation? cs with
      | some (op, rest) => readBrackets? verbose fuel (b.operate op) outer rest
      | none =>
        match readRange? verbose cs with
        | none => none
        | some (part, rest) => readBrackets? verbose fuel (b.push part) outer rest

/-- The bracket after its opening sign, and the text after the sign that closes it. -/
def readBracket? (verbose : Bool) (cs : List Char) : Option (Expression × List Char) :=
  let (b, rest) := openBracket verbose cs
  readBrackets? verbose (cs.length + 1) b [] rest

end RegulatoryReporting.Pattern
