import RegulatoryReporting.Pattern.Flags

/-!
# Patterns as They Are Written

What the text of a pattern says, before the flags that hold at each place are applied. A
group of flags is a part like any other, since it may stand between two parts.

## Main results

* `Expression.nestsWithin` — whether an expression nests no deeper than allowed. It looks
  no deeper than that either.
-/

namespace RegulatoryReporting

/-- A character that stands for itself. -/
structure WrittenChar where
  /-- The character. -/
  char : Char
  /-- Whether it was written as `x` and two digits, which is a byte where Unicode is off. -/
  asByte : Bool := false
  deriving DecidableEq, Repr

/-- A set that has a letter of its own. -/
inductive LetterClass
  /-- Digits. -/
  | digit
  /-- White space. -/
  | space
  /-- Characters of words. -/
  | word
  deriving DecidableEq, Repr

/-- A set asked for by Unicode property. -/
inductive PropertyQuery
  /-- One name, of a property, a category or a script. -/
  | named (name : String)
  /-- The name of a property and that of a value. -/
  | valued (property value : String)
  deriving DecidableEq, Repr

/-- An operation between two parts of a bracket. -/
inductive SetOperation
  | intersection
  | difference
  | symmetric
  deriving DecidableEq, Repr

/-- What a bracket holds. -/
inductive BracketPart
  /-- Nothing, as before an operation. -/
  | nothing
  | one (c : WrittenChar)
  /-- The characters from one to another. -/
  | range (first last : WrittenChar)
  /-- A named set of ASCII. -/
  | ascii (name : String) (negated : Bool)
  | letters (c : LetterClass) (negated : Bool)
  | property (q : PropertyQuery) (negated : Bool)
  /-- A bracket within. -/
  | nested (negated : Bool) (content : BracketPart)
  /-- Two or more parts side by side. -/
  | union (parts : List BracketPart)
  | operation (op : SetOperation) (left right : BracketPart)

/-- An assertion as it is written. -/
inductive Anchor
  /-- A circumflex. -/
  | lineStart
  /-- A dollar sign. -/
  | lineEnd
  | textStart
  | textEnd
  | boundary
  | noBoundary
  | wordStart
  | wordEnd
  | wordStartHalf
  | wordEndHalf
  deriving DecidableEq, Repr

/-- What a group does besides holding its content together. -/
inductive GroupKind
  /-- It is counted among the groups whose matches can be told. -/
  | capture (index : Nat)
  /-- It changes flags for its content. -/
  | plain (change : FlagChange)
  deriving DecidableEq, Repr

/-- A pattern as it is written. -/
inductive Expression
  | empty
  /-- Flags for what follows in the group. -/
  | flags (change : FlagChange)
  | literal (c : WrittenChar)
  /-- A point, which stands for nearly every character. -/
  | point
  | anchor (a : Anchor)
  | letters (c : LetterClass) (negated : Bool)
  | property (q : PropertyQuery) (negated : Bool)
  | bracket (negated : Bool) (content : BracketPart)
  /-- At least `min` and at most `max` times, preferably many if `greedy`. -/
  | repetition (body : Expression) (min : Nat) (max : Option Nat) (greedy : Bool)
  | group (kind : GroupKind) (body : Expression)
  /-- Two or more parts in a row. -/
  | sequence (parts : List Expression)
  /-- Two or more alternatives. -/
  | alternatives (branches : List Expression)

/-! ### Putting parts together -/

/-- The content of a bracket with the given parts. -/
def BracketPart.ofParts : List BracketPart → BracketPart
  | [] => nothing
  | [p] => p
  | parts => union parts

namespace Expression

/-- The expression with the given parts in a row. -/
def ofParts : List Expression → Expression
  | [] => empty
  | [e] => e
  | parts => sequence parts

/-- The expression with the given alternatives. -/
def ofBranches : List Expression → Expression
  | [] => empty
  | [e] => e
  | branches => alternatives branches

/-- Whether a repetition sign can apply to an expression. -/
def isRepeatable : Expression → Bool
  | empty => false
  | flags _ => false
  | _ => true

end Expression

/-! ### Nesting -/

mutual

/-- Whether the content of a bracket nests no deeper than `room`. -/
def BracketPart.nestsWithin : BracketPart → Nat → Bool
  | .nested _ content, room + 1 => content.nestsWithin room
  | .union parts, room + 1 => BracketPart.allNestWithin parts room
  | .operation _ left right, room + 1 => left.nestsWithin room && right.nestsWithin room
  | .nested _ _, 0 => false
  | .union _, 0 => false
  | .operation _ _ _, 0 => false
  | _, _ => true

/-- Whether all parts of a bracket nest no deeper than `room`. -/
def BracketPart.allNestWithin : List BracketPart → Nat → Bool
  | [], _ => true
  | p :: ps, room => p.nestsWithin room && BracketPart.allNestWithin ps room

end

mutual

/-- Whether an expression nests no deeper than `room`. -/
def Expression.nestsWithin : Expression → Nat → Bool
  | .bracket _ content, room + 1 => content.nestsWithin room
  | .repetition body _ _ _, room + 1 => body.nestsWithin room
  | .group _ body, room + 1 => body.nestsWithin room
  | .sequence parts, room + 1 => Expression.allNestWithin parts room
  | .alternatives branches, room + 1 => Expression.allNestWithin branches room
  | .bracket _ _, 0 => false
  | .repetition _ _ _ _, 0 => false
  | .group _ _, 0 => false
  | .sequence _, 0 => false
  | .alternatives _, 0 => false
  | _, _ => true

/-- Whether all expressions nest no deeper than `room`. -/
def Expression.allNestWithin : List Expression → Nat → Bool
  | [], _ => true
  | e :: es, room => e.nestsWithin room && Expression.allNestWithin es room

end

/-- How deep a pattern may nest: its brackets, repetitions, groups, sequences and
alternatives all count. -/
def Expression.nestLimit : Nat := 250

end RegulatoryReporting
