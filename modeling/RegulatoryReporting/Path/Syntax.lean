import RegulatoryReporting.Path.Basic

/-!
# Path Syntax

A path is written as its segments with points between them; a filter stands in brackets
as `key=value`, an index as a number. Blanks around a name, a key, a value or an index
are dropped, and so are blanks around the whole path. A name ends at a point or at an
opening bracket, a bracket at the next closing one, and the key of a filter at the first
equals sign; no character can be escaped.

The reader walks along the characters once (`PathSegment.scan`), so that every path is
read in one pass and the first fault from the left is the one reported.
-/

namespace RegulatoryReporting

/-- Why a text is no path. -/
inductive PathFault
  /-- The text is blank. -/
  | empty
  /-- A segment has a blank name. -/
  | emptySegment
  /-- A bracket is not closed. -/
  | unclosed
  /-- A filter has a blank key. -/
  | emptyKey
  /-- A bracket holds neither a filter nor an index. -/
  | badFilter
  /-- A closing bracket is followed by something other than a point. -/
  | missingPoint
  deriving DecidableEq, Repr

/-- The wording of a fault. -/
def PathFault.reason : PathFault → String
  | empty => "path is empty"
  | emptySegment => "empty segment"
  | unclosed => "unclosed '['"
  | emptyKey => "filter key is empty"
  | badFilter => "filter must have the form [key=value] or [n]"
  | missingPoint => "expected '.' after ']'"

/-- A text that is no path. -/
structure InvalidPath where
  /-- The text as it was given. -/
  path : String
  /-- What is wrong with it. -/
  fault : PathFault
  deriving DecidableEq, Repr

/-- The message for a text that is no path. -/
def InvalidPath.message (e : InvalidPath) : String :=
  s!"invalid path '{e.path}': {e.fault.reason}"

/-! ### Reading -/

/-- The greatest index. -/
def maxIndex : Nat := twoPow 64 - 1

/-- A natural number of 64 bits, with an optional plus sign before its digits. -/
def readIndex? (cs : List Char) : Option Nat :=
  let digits := match cs with
    | '+' :: rest => rest
    | cs => cs
  if digits.isEmpty || !digits.all Char.isDigit then none
  else
    let n := digitsValue digits
    if n ≤ maxIndex then some n else none

/-- The name of a segment without the blanks around it. -/
def readName (cs : List Char) : Except PathFault String :=
  match Text.trimList cs with
  | [] => .error .emptySegment
  | name => .ok (String.ofList name)

/-- The segment of an array and the text between its brackets. -/
def readFilter (name : String) (cs : List Char) : Except PathFault PathSegment :=
  match cs.dropWhile (· != '=') with
  | _ :: value =>
    match Text.trimList (cs.takeWhile (· != '=')) with
    | [] => .error .emptyKey
    | key =>
      .ok (.filter name (String.ofList key) (String.ofList (Text.trimList value)))
  | [] =>
    match readIndex? (Text.trimList cs) with
    | some i => .ok (.index name i)
    | none => .error .badFilter

/-- Where the reader stands, with the characters taken since. -/
inductive PathPosition
  /-- In the name of a segment. -/
  | inName (taken : List Char)
  /-- Between the brackets of an array. -/
  | inFilter (name : String) (taken : List Char)
  /-- After a closing bracket. -/
  | closed

/-- The segments that the characters write from a position on. -/
def PathSegment.scan : PathPosition → List Char → Except PathFault (List PathSegment)
  | .inName taken, [] => do
    let name ← readName taken
    return [.key name]
  | .inName taken, c :: cs =>
    if c == '.' then do
      let name ← readName taken
      let rest ← scan (.inName []) cs
      return .key name :: rest
    else if c == '[' then do
      let name ← readName taken
      scan (.inFilter name []) cs
    else scan (.inName (taken ++ [c])) cs
  | .inFilter _ _, [] => .error .unclosed
  | .inFilter name taken, c :: cs =>
    if c == ']' then do
      let segment ← readFilter name taken
      let rest ← scan .closed cs
      return segment :: rest
    else scan (.inFilter name (taken ++ [c])) cs
  | .closed, [] => .ok []
  | .closed, c :: cs => if c == '.' then scan (.inName []) cs else .error .missingPoint

/-- A path: its text without the blanks around it, and the segments that it writes. -/
structure FieldPath where
  /-- The text of the path. -/
  text : String
  /-- Its segments. -/
  segments : List PathSegment
  deriving DecidableEq, Repr

namespace FieldPath

/-- Read a path. -/
def ofText (s : String) : Except InvalidPath FieldPath :=
  match Text.trimList s.toList with
  | [] => .error ⟨s, .empty⟩
  | cs =>
    match PathSegment.scan (.inName []) cs with
    | .ok segments => .ok ⟨String.ofList cs, segments⟩
    | .error fault => .error ⟨s, fault⟩

/-- The place of a record to which the path leads. -/
def resolve (p : FieldPath) (record : Json) : Option Json :=
  resolveSegments p.segments record

end FieldPath

/-- The place of a record that a text names; a text that is no path names none. -/
def resolve (record : Json) (path : String) : Option Json :=
  match FieldPath.ofText path with
  | .ok p => p.resolve record
  | .error _ => none

/-! ### Writing -/

/-- The text of a segment. -/
def PathSegment.print : PathSegment → List Char
  | key name => name.toList
  | filter name k value =>
    name.toList ++ '[' :: k.toList ++ '=' :: value.toList ++ [']']
  | index name i => name.toList ++ '[' :: Nat.toDigits 10 i ++ [']']

/-- The text of segments, with points between them. -/
def printSegments : List PathSegment → List Char
  | [] => []
  | [segment] => segment.print
  | segment :: rest => segment.print ++ '.' :: printSegments rest

end RegulatoryReporting
