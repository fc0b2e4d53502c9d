import RegulatoryReporting.Pattern.Basic
import RegulatoryReporting.Pattern.Expression
import RegulatoryReporting.Unicode.CaseFolding
import RegulatoryReporting.Unicode.Query

/-!
# What Patterns Mean

What is written becomes a pattern under the flags that hold at each place. Flags set within
a group end with it; otherwise they hold on to the right, across bars as well.

Where Unicode is on, sets are sets of characters. Where it is off they are sets of ASCII:
nothing that could match a part of a character is allowed, so that complements, points and
properties are refused there, as are characters beyond ASCII in brackets. Where case is
ignored a set is closed under case folding, before it is negated and before an operation
is applied.
-/

namespace RegulatoryReporting

open Text

/-! ### Sets of ASCII -/

/-- The members of a named set of ASCII. -/
def asciiSet? : String → Option CharSet
  | "alnum" => some (listed ["30-39 41-5A 61-7A"])
  | "alpha" => some (listed ["41-5A 61-7A"])
  | "ascii" => some (listed ["0-7F"])
  | "blank" => some (listed ["9 20"])
  | "cntrl" => some (listed ["0-1F 7F"])
  | "digit" => some (listed ["30-39"])
  | "graph" => some (listed ["21-7E"])
  | "lower" => some (listed ["61-7A"])
  | "print" => some (listed ["20-7E"])
  | "punct" => some (listed ["21-2F 3A-40 5B-60 7B-7E"])
  | "space" => some (listed ["9-D 20"])
  | "upper" => some (listed ["41-5A"])
  | "word" => some (listed ["30-39 41-5A 5F 61-7A"])
  | "xdigit" => some (listed ["30-39 41-46 61-66"])
  | _ => none

/-! ### Sets under flags -/

namespace PatternFlags

/-- The set that a letter stands for. -/
def letterSet (f : PatternFlags) : LetterClass → CharSet
  | .digit => if f.unicode then Unicode.decimalDigits else listed ["30-39"]
  | .space => if f.unicode then Unicode.whiteSpace else listed ["9-D 20"]
  | .word => if f.unicode then Unicode.wordCharacters else listed ["30-39 41-5A 5F 61-7A"]

/-- A set as it is meant where case may be ignored. -/
def closed (f : PatternFlags) (s : CharSet) : CharSet :=
  if f.ignoreCase then
    if f.unicode then Unicode.closeCase s else Unicode.closeAsciiCase s
  else s

/-- A set or its complement, which is refused where Unicode is off. -/
def negatedIf? (f : PatternFlags) (negated : Bool) (s : CharSet) : Option CharSet :=
  if negated then if f.unicode then some s.compl else none else some s

/-- What a point stands for. -/
def pointSet? (f : PatternFlags) : Option CharSet :=
  if !f.unicode then none
  else if f.pointTakesBreak then some .all
  else if f.crlf then some (listed ["A D"]).compl
  else some (listed ["A"]).compl

/-- What an anchor asserts. -/
def assertion (f : PatternFlags) : Anchor → Assertion
  | .lineStart => if f.multiLine then .lineStart f.crlf else .textStart
  | .lineEnd => if f.multiLine then .lineEnd f.crlf else .textEnd
  | .textStart => .textStart
  | .textEnd => .textEnd
  | .boundary => .boundary (f.letterSet .word)
  | .noBoundary => .noBoundary (f.letterSet .word)
  | .wordStart => .wordStart (f.letterSet .word)
  | .wordEnd => .wordEnd (f.letterSet .word)
  | .wordStartHalf => .wordStartHalf (f.letterSet .word)
  | .wordEndHalf => .wordEndHalf (f.letterSet .word)

/-- A character as it is meant where case may be ignored. -/
def ofChar (f : PatternFlags) (c : Char) : Pattern :=
  if f.ignoreCase then
    .ofSet (if f.unicode then Unicode.foldedLike c else Unicode.closeAsciiCase (.single c))
  else .literal [c]

/-- A character that stands for itself. One written as a byte beyond ASCII is refused where
Unicode is off. -/
def literal? (f : PatternFlags) (c : WrittenChar) : Option Pattern :=
  if !f.unicode && c.asByte && 0x80 ≤ c.char.toNat then none else some (f.ofChar c.char)

/-- The characters from one to another in a bracket, which are those of ASCII where Unicode
is off. -/
def interval? (f : PatternFlags) (first last : WrittenChar) : Option CharSet :=
  if !f.unicode && (0x80 ≤ first.char.toNat || 0x80 ≤ last.char.toNat) then none
  else some (.interval first.char.toNat last.char.toNat)

/-- The characters with a property. -/
def propertySet? (f : PatternFlags) (q : PropertyQuery) : Option CharSet :=
  if !f.unicode then none
  else
    match q with
    | .named name => Unicode.named? name
    | .valued property value => Unicode.valued? property value

/-- The flags within a group. -/
def within (f : PatternFlags) : GroupKind → PatternFlags
  | .capture _ => f
  | .plain change => f.after change

end PatternFlags

/-! ### Brackets -/

/-- The result of an operation on sets. -/
def SetOperation.combine : SetOperation → CharSet → CharSet → CharSet
  | intersection => .inter
  | difference => .diff
  | symmetric => .symmDiff

mutual

/-- The set that the content of a bracket describes. -/
def BracketPart.set? (f : PatternFlags) : BracketPart → Option CharSet
  | .nothing => some .empty
  | .one c => f.interval? c c
  | .range first last => f.interval? first last
  | .ascii name negated => (asciiSet? name).bind fun s => f.negatedIf? negated (f.closed s)
  | .letters c negated => f.negatedIf? negated (f.letterSet c)
  | .property q negated =>
    (f.propertySet? q).bind fun s => f.negatedIf? negated (f.closed s)
  | .nested negated content =>
    (content.set? f).bind fun s => f.negatedIf? negated (f.closed s)
  | .union parts => (BracketPart.sets? f parts).map .unionAll
  | .operation op left right =>
    match left.set? f, right.set? f with
    | some s, some t => some (op.combine (f.closed s) (f.closed t))
    | _, _ => none

/-- The sets that parts of a bracket describe. -/
def BracketPart.sets? (f : PatternFlags) : List BracketPart → Option (List CharSet)
  | [] => some []
  | p :: ps =>
    match p.set? f, BracketPart.sets? f ps with
    | some s, some sets => some (s :: sets)
    | _, _ => none

end

/-! ### Expressions -/

/-- A part as the group around it makes it. -/
def GroupKind.around : GroupKind → Pattern → Pattern
  | capture index, p => .capture index p
  | plain _, p => p

mutual

/-- The pattern that an expression means under flags, and the flags after it. -/
def Expression.meaning? (f : PatternFlags) : Expression → Option (Pattern × PatternFlags)
  | .empty => some (.empty, f)
  | .flags change => some (.empty, f.after change)
  | .literal c => (f.literal? c).map fun p => (p, f)
  | .point => f.pointSet?.map fun s => (.ofSet s, f)
  | .anchor a => some (.assertion (f.assertion a), f)
  | .letters c negated => (f.negatedIf? negated (f.letterSet c)).map fun s => (.ofSet s, f)
  | .property q negated =>
    ((f.propertySet? q).bind fun s => f.negatedIf? negated (f.closed s)).map fun s =>
      (.ofSet s, f)
  | .bracket negated content =>
    ((content.set? f).bind fun s => f.negatedIf? negated (f.closed s)).map fun s =>
      (.ofSet s, f)
  | .repetition body min max greedy =>
    (body.meaning? f).map fun (p, f) => (p.times min max (greedy != f.swapGreed), f)
  | .group kind body => (body.meaning? (f.within kind)).map fun (p, _) => (kind.around p, f)
  | .sequence parts => (Expression.meanings? f parts).map fun (ps, f) => (.ofParts ps, f)
  | .alternatives branches =>
    (Expression.meanings? f branches).map fun (ps, f) => (.ofBranches ps, f)

/-- The patterns that expressions mean one after the other, and the flags after them. -/
def Expression.meanings? (f : PatternFlags) :
    List Expression → Option (List Pattern × PatternFlags)
  | [] => some ([], f)
  | e :: es =>
    match e.meaning? f with
    | none => none
    | some (p, f) => (Expression.meanings? f es).map fun (ps, f) => (p :: ps, f)

end

end RegulatoryReporting
