import RegulatoryReporting.Pattern.Basic
import RegulatoryReporting.Pattern.Footprint.Set
import RegulatoryReporting.Pattern.Footprint.Words

/-!
# The Room of a Pattern

A pattern is measured part by part, a repetition being written out. It is measured twice:
the automaton that finds the end of a match reads forward, the one that finds its beginning
reads backward and does not tell what groups match. Both have to stay within the limit.

An automaton that can begin anywhere has a few nodes in front that pass over what comes
before a match. Where a pattern asserts the place at which reading starts, they are left
out.

## Main results

* `Pattern.isWithinLimit` — whether a pattern is small enough.
-/

namespace RegulatoryReporting

namespace Footprint

/-! ### Combining parts -/

/-- One part a number of times in a row. -/
def copies? (one : Footprint → Option Measured) : Nat → Footprint → Option Measured
  | 0, f => Measured.ofNode? f
  | 1, f => one f
  | n + 2, f =>
    match one f with
    | none => none
    | some m => copies? one (n + 1) m.goOn

/-- One part up to a number of times more, each of which may be left out for a node that
was made before; `m` is what precedes them. -/
def optionalCopies? (one : Footprint → Option Measured) : Nat → Measured → Option Measured
  | 0, m => some ⟨m.goOn, false⟩
  | n + 1, m =>
    match m.goOn.node? 0 with
    | none => none
    | some f =>
      match one f with
      | none => none
      | some m => optionalCopies? one n { m with footprint := m.footprint.link 2 }

/-- One part or nothing. -/
def optional? (one : Footprint → Option Measured) (f : Footprint) : Option Measured := do
  let m ← one (← f.node? 0)
  return ⟨(← m.goOn.node? 0).link 2, false⟩

/-- One part any number of times. A part that can match the empty text needs two forks. -/
def star? (one : Footprint → Option Measured) (takesText : Bool) (f : Footprint) :
    Option Measured :=
  if takesText then do
    let m ← one (← f.node? 0)
    return ⟨m.goOn.link 1, true⟩
  else do
    let m ← one f
    let f ← m.goOn.node? 0
    let f ← f.node? 0
    let f ← f.node? 0
    return ⟨f.link 4, false⟩

/-- One part at least a number of times, which is not zero. -/
def atLeast? (one : Footprint → Option Measured) (n : Nat) (f : Footprint) :
    Option Measured := do
  let m ← copies? one n f
  return ⟨(← m.goOn.node? 0).link 1, true⟩

/-- One part at least `min` and at most `max` times. -/
def between? (one : Footprint → Option Measured) (min max : Nat) (f : Footprint) :
    Option Measured := do
  let m ← copies? one min f
  if min == max then return m
  else optionalCopies? one (max - min) { m with footprint := ← m.footprint.node? 0 }

/-- One part repeated; `takesText` tells that it cannot match the empty text. -/
def repeated? (one : Footprint → Option Measured) (takesText : Bool) (min : Nat)
    (max : Option Nat) (f : Footprint) : Option Measured :=
  match min, max with
  | 0, some 1 => optional? one f
  | 0, none => star? one takesText f
  | min, none => atLeast? one min f
  | min, some max => between? one min max f

/-- The bytes of characters, in the order in which they are read. -/
def wordOf (backward : Bool) (cs : List Char) : Word :=
  let bytes := (String.ofList cs).toUTF8.toList
  if backward then bytes.reverse else bytes

/-- The words that patterns are, if all are literals. -/
def wordsOf? (backward : Bool) (ps : List Pattern) : Option (List Word) :=
  ps.mapM fun p =>
    match p with
    | .literal cs => some (wordOf backward cs)
    | _ => none

/-! ### Patterns -/

mutual

/-- The room after a pattern. -/
def measure? (backward : Bool) : Pattern → Footprint → Option Measured
  | .empty, f => Measured.ofNode? f
  | .literal cs, f => copies? Measured.ofNode? (Pattern.byteLength cs) f
  | .chars s, f => set? backward f s
  | .assertion _, f => Measured.ofNode? f
  | .repeated p min max _, f =>
    repeated? (measure? backward p) (p.minLength.any (0 < ·)) min max f
  | .capture _ p, f =>
    if backward then measure? backward p f
    else do
      let m ← measure? backward p (← f.node? 0)
      return ⟨← m.goOn.node? 0, false⟩
  | .sequence ps, f => if backward then measureBack? ps f else measureOn? ps f
  | .alternatives ps, f =>
    match wordsOf? backward ps with
    | some words => words? f words
    | none => measureFirst? backward ps f

/-- The room after patterns in a row, the first of them made first. -/
def measureOn? : List Pattern → Footprint → Option Measured
  | [], f => Measured.ofNode? f
  | [p], f => measure? false p f
  | p :: q :: ps, f =>
    match measure? false p f with
    | none => none
    | some m => measureOn? (q :: ps) m.goOn

/-- The room after patterns in a row, the last of them made first. -/
def measureBack? : List Pattern → Footprint → Option Measured
  | [], f => Measured.ofNode? f
  | [p], f => measure? true p f
  | p :: q :: ps, f =>
    match measureBack? (q :: ps) f with
    | none => none
    | some m => measure? true p m.goOn

/-- The room after the first of several alternatives and all that come after it. -/
def measureFirst? (backward : Bool) : List Pattern → Footprint → Option Measured
  | [], f => Measured.ofNode? f
  | p :: ps, f =>
    match measure? backward p f with
    | none => none
    | some m => measureSecond? backward ps m

/-- The room after the second of several alternatives and all that come after it. The fork
in front of them and the node behind them are made here; `m` is the first. -/
def measureSecond? (backward : Bool) : List Pattern → Measured → Option Measured
  | [], m => some m
  | p :: ps, m =>
    match measure? backward p m.goOn with
    | none => none
    | some m => do
      let f ← m.goOn.node? 0
      let f ← f.node? 0
      measureRest? backward ps (f.link 2)

/-- The room after the other alternatives. -/
def measureRest? (backward : Bool) : List Pattern → Footprint → Option Measured
  | [], f => some ⟨f, false⟩
  | p :: ps, f =>
    match measure? backward p f with
    | none => none
    | some m => measureRest? backward ps (m.goOn.link 1)

end

end Footprint

namespace Pattern

/-! ### Where a match has to begin or end -/

mutual

/-- Whether every match begins with an assertion, or ends with it if `backward` is set. -/
def asserts (a : Assertion) (backward : Bool) : Pattern → Bool
  | assertion b => a == b
  | repeated p min _ _ => 0 < min && asserts a backward p
  | capture _ p => asserts a backward p
  | sequence ps => if backward then lastAssert a ps else firstAssert a ps
  | alternatives ps => allAssert a backward ps
  | _ => false

/-- Whether what stands before the first text of a sequence begins with an assertion. -/
def firstAssert (a : Assertion) : List Pattern → Bool
  | [] => false
  | p :: ps => asserts a false p || (p.maxLength == some 0 && firstAssert a ps)

/-- Whether what stands behind the last text of a sequence ends with an assertion. -/
def lastAssert (a : Assertion) : List Pattern → Bool
  | [] => false
  | p :: ps => (asserts a true p && maxLengthSum ps == some 0) || lastAssert a ps

/-- Whether all alternatives begin or end with an assertion. -/
def allAssert (a : Assertion) (backward : Bool) : List Pattern → Bool
  | [] => true
  | p :: ps => asserts a backward p && allAssert a backward ps

end

/-! ### The limit -/

/-- What stands in front of an automaton: a node if reading starts where the match has to,
else the nodes that pass over what comes before it. -/
def front (p : Pattern) (backward : Bool) : Footprint :=
  let place := if backward then Assertion.textEnd else Assertion.textStart
  if asserts place backward p then ⟨1, 0⟩
  else
    ⟨3, 2 * Footprint.linkSize + Footprint.transitionSize⟩

/-- The room of the automaton that reads in one direction, if that is within the limit. -/
def footprint? (p : Pattern) (backward : Bool) : Option Footprint := do
  let m ← Footprint.measure? backward (capture 0 p) (p.front backward)
  m.goOn.node? 0

/-- Whether a pattern is small enough. -/
def isWithinLimit (p : Pattern) : Bool :=
  (p.footprint? false).isSome && (p.footprint? true).isSome

end Pattern

end RegulatoryReporting
