import RegulatoryReporting.Pattern.Assertion

/-!
# Patterns

A pattern is a regular expression over characters with assertions about the place between
two characters. It is kept in a reduced form, which the constructing functions of this
module produce: a set of one character is a literal, neighbouring literals are one,
sequences and alternatives hold none of their own kind, alternatives of sets are a set, and
what all alternatives begin with stands before them. How much room a pattern takes is
measured on this form.
-/

namespace RegulatoryReporting

open Text

/-- A regular expression in reduced form. -/
inductive Pattern
  /-- The empty text. -/
  | empty
  /-- Characters in a row, at least one. -/
  | literal (cs : List Char)
  /-- One character of a set, which does not have exactly one. -/
  | chars (s : CharSet)
  /-- The empty text at a place with a property. -/
  | assertion (a : Assertion)
  /-- At least `min` and at most `max` times in a row, preferably many if `greedy`. -/
  | repeated (p : Pattern) (min : Nat) (max : Option Nat) (greedy : Bool)
  /-- A part whose match can be told. -/
  | capture (index : Nat) (p : Pattern)
  /-- Two or more parts in a row. -/
  | sequence (parts : List Pattern)
  /-- Two or more alternatives. -/
  | alternatives (branches : List Pattern)

namespace Pattern

/-! ### Equality -/

mutual

/-- Whether two patterns are the same. -/
def same : Pattern → Pattern → Bool
  | empty, empty => true
  | literal cs, literal ds => cs == ds
  | chars s, chars t => s == t
  | assertion a, assertion b => a == b
  | repeated p min max greedy, repeated q min' max' greedy' =>
    min == min' && max == max' && greedy == greedy' && same p q
  | capture index p, capture index' q => index == index' && same p q
  | sequence ps, sequence qs => allSame ps qs
  | alternatives ps, alternatives qs => allSame ps qs
  | _, _ => false

/-- Whether two lists hold the same patterns. -/
def allSame : List Pattern → List Pattern → Bool
  | [], [] => true
  | p :: ps, q :: qs => same p q && allSame ps qs
  | _, _ => false

end

/-! ### Lengths -/

/-- How many bytes characters take in UTF-8. -/
def byteLength (cs : List Char) : Nat := cs.foldl (fun n c => n + c.utf8Size) 0

/-- How many bytes the character of a code point takes in UTF-8. -/
def codeLength (n : Nat) : Nat :=
  if n < 0x80 then 1 else if n < 0x800 then 2 else if n < 0x10000 then 3 else 4

mutual

/-- The least number of bytes that a match takes, if the pattern can match. -/
def minLength : Pattern → Option Nat
  | empty => some 0
  | literal cs => some (byteLength cs)
  | chars s => s.boundaries.head?.map codeLength
  | assertion _ => some 0
  | repeated p min _ _ => p.minLength.map (· * min)
  | capture _ p => p.minLength
  | sequence ps => minLengthSum ps
  | alternatives ps => minLengthLeast ps

/-- The least number of bytes that matches in a row take. -/
def minLengthSum : List Pattern → Option Nat
  | [] => some 0
  | p :: ps =>
    match p.minLength, minLengthSum ps with
    | some m, some n => some (m + n)
    | _, _ => none

/-- The least number of bytes that a match of one of the patterns takes, if all can
match. -/
def minLengthLeast : List Pattern → Option Nat
  | [] => none
  | [p] => p.minLength
  | p :: q :: ps =>
    match p.minLength, minLengthLeast (q :: ps) with
    | some m, some n => some (min m n)
    | _, _ => none

end

mutual

/-- The greatest number of bytes that a match takes, if there is a greatest. -/
def maxLength : Pattern → Option Nat
  | empty => some 0
  | literal cs => some (byteLength cs)
  | chars s => s.boundaries.getLast?.map fun past => codeLength (past - 1)
  | assertion _ => some 0
  | repeated p _ max _ =>
    match max, p.maxLength with
    | some n, some m => some (m * n)
    | _, _ => none
  | capture _ p => p.maxLength
  | sequence ps => maxLengthSum ps
  | alternatives ps => maxLengthGreatest ps

/-- The greatest number of bytes that matches in a row take. -/
def maxLengthSum : List Pattern → Option Nat
  | [] => some 0
  | p :: ps =>
    match p.maxLength, maxLengthSum ps with
    | some m, some n => some (m + n)
    | _, _ => none

/-- The greatest number of bytes that a match of one of the patterns takes. -/
def maxLengthGreatest : List Pattern → Option Nat
  | [] => none
  | [p] => p.maxLength
  | p :: q :: ps =>
    match p.maxLength, maxLengthGreatest (q :: ps) with
    | some m, some n => some (max m n)
    | _, _ => none

end

/-! ### One character, and repetitions -/

/-- One character of a set. -/
def ofSet (s : CharSet) : Pattern :=
  match s.only? with
  | some c => literal [c]
  | none => chars s

/-- A part at least `min` and at most `max` times in a row. One that matches the empty text
only is not repeated more than once. -/
def times (p : Pattern) (min : Nat) (max : Option Nat) (greedy : Bool) : Pattern :=
  let (min, max) :=
    if p.maxLength == some 0 then (Nat.min min 1, some (Nat.min (max.getD 1) 1))
    else (min, max)
  if min == 0 && max == some 0 then empty
  else if min == 1 && max == some 1 then p
  else repeated p min max greedy

/-! ### Sequences -/

/-- The parts of a sequence, the parts of parts that are sequences among them. -/
def flatParts (ps : List Pattern) : List Pattern :=
  ps.flatMap fun p =>
    match p with
    | empty => []
    | sequence qs => qs
    | p => [p]

/-- Make one literal of literals that follow each other. -/
def joinLiterals : List Pattern → List Pattern
  | [] => []
  | literal cs :: ps =>
    match joinLiterals ps with
    | literal ds :: qs => literal (cs ++ ds) :: qs
    | qs => literal cs :: qs
  | p :: ps => p :: joinLiterals ps

/-- Parts in a row. -/
def ofParts (ps : List Pattern) : Pattern :=
  match joinLiterals (flatParts ps) with
  | [] => empty
  | [p] => p
  | ps => sequence ps

/-! ### Alternatives -/

/-- The alternatives, the alternatives of alternatives among them. -/
def flatBranches (ps : List Pattern) : List Pattern :=
  ps.flatMap fun p =>
    match p with
    | alternatives qs => qs
    | p => [p]

/-- The set of a pattern that is a single character. -/
def singleton? : Pattern → Option CharSet
  | literal [c] => some (.single c)
  | _ => none

/-- The set of a pattern that is one. -/
def set? : Pattern → Option CharSet
  | chars s => some s
  | _ => none

/-- The parts of a pattern that is a sequence. -/
def parts? : Pattern → Option (List Pattern)
  | sequence ps => some ps
  | _ => none

/-- The parts with which both of two sequences begin. -/
def commonParts : List Pattern → List Pattern → List Pattern
  | p :: ps, q :: qs => if same p q then p :: commonParts ps qs else []
  | _, _ => []

/-- The parts with which all of the sequences begin. -/
def commonStart : List (List Pattern) → List Pattern
  | [] => []
  | ps :: more => more.foldl commonParts ps

/-- Alternatives. Those that all begin alike have their beginning lifted out, which can
happen `rounds` times at most. -/
def ofBranchesUpTo (rounds : Nat) (branches : List Pattern) : Pattern :=
  match flatBranches branches with
  | [] => chars .empty
  | [p] => p
  | ps =>
    match ps.mapM singleton? with
    | some sets => ofSet (.unionAll sets)
    | none =>
      match ps.mapM set? with
      | some sets => ofSet (.unionAll sets)
      | none =>
        match rounds, ps.mapM parts? with
        | rounds + 1, some sequences =>
          let start := commonStart sequences
          if start.isEmpty then alternatives ps
          else
            let ends := sequences.map fun parts => ofParts (parts.drop start.length)
            ofParts (start ++ [ofBranchesUpTo rounds ends])
        | _, _ => alternatives ps

mutual

/-- How many patterns a pattern is made of. -/
def nodeCount : Pattern → Nat
  | empty => 1
  | literal _ => 1
  | chars _ => 1
  | assertion _ => 1
  | repeated p _ _ _ => p.nodeCount + 1
  | capture _ p => p.nodeCount + 1
  | sequence ps => nodeCountAll ps + 1
  | alternatives ps => nodeCountAll ps + 1

/-- How many patterns the patterns are made of. -/
def nodeCountAll : List Pattern → Nat
  | [] => 0
  | p :: ps => p.nodeCount + nodeCountAll ps

end

/-- Alternatives. Every beginning that is lifted out takes a part away. -/
def ofBranches (branches : List Pattern) : Pattern :=
  ofBranchesUpTo (nodeCountAll branches) branches

end Pattern

end RegulatoryReporting
