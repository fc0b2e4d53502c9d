import RegulatoryReporting.Pattern.Basic

/-!
# Matching

A pattern becomes an automaton over characters, a repetition being written out. Its nodes
are made from the end to the beginning, so that each knows where it leads. The automaton
runs over all places of a text at once: at every place the nodes that can be reached are
visited once each, the first node among them, since a match may begin anywhere. The work is
bounded by the number of nodes at every place, whatever the pattern; there is no search to
back out of.

## Main results

* `Pattern.isMatch` — whether a pattern matches somewhere in a text.
-/

namespace RegulatoryReporting

open Text

/-- A node of an automaton, with the numbers of the nodes to which it leads. -/
inductive Node
  /-- The pattern has matched. -/
  | done
  /-- Take a character. -/
  | take (c : Char) (next : Nat)
  /-- Take a character of a set. -/
  | takeOf (s : CharSet) (next : Nat)
  /-- Go on where an assertion holds. -/
  | check (a : Assertion) (next : Nat)
  /-- Go on in two ways. -/
  | fork (first second : Nat)
  deriving DecidableEq, Repr

/-- An automaton as its nodes. -/
abbrev Automaton := Array Node

namespace Automaton

/-! ### Construction -/

/-- An automaton to which nodes were added, and the number of the node at which to enter
them. -/
abbrev Entered := Nat × Automaton

/-- Add a node and enter there. -/
def add (m : Automaton) (n : Node) : Entered := (m.size, m.push n)

/-- Nodes that take the characters of a list, given in reverse order. -/
def addChars : List Char → Entered → Entered
  | [], e => e
  | c :: cs, (next, m) => addChars cs (m.add (.take c next))

/-- Nodes for a part that is matched a number of times. -/
def addCopies (one : Entered → Entered) : Nat → Entered → Entered
  | 0, e => e
  | n + 1, e => addCopies one n (one e)

/-- Nodes for a part that is matched up to a number of times, each of which may be left out
for the node `out`. -/
def addOptional (one : Entered → Entered) (out : Nat) : Nat → Entered → Entered
  | 0, e => e
  | n + 1, e =>
    let (entry, m) := one e
    addOptional one out n (m.add (.fork entry out))

/-- Nodes for a part that is matched any number of times. The fork is made first, so that
the part can lead back to it. -/
def addStar (one : Entered → Entered) : Entered → Entered
  | (next, m) =>
    let here := m.size
    let (entry, m) := one (here, m.push .done)
    (here, m.setIfInBounds here (.fork entry next))

mutual

/-- Nodes for a pattern before the node to which a match leads. -/
def addPattern : Pattern → Entered → Entered
  | .empty, e => e
  | .literal cs, e => addChars cs.reverse e
  | .chars s, (next, m) => m.add (.takeOf s next)
  | .assertion a, (next, m) => m.add (.check a next)
  | .repeated p min none _, e => addCopies (addPattern p) min (addStar (addPattern p) e)
  | .repeated p min (some max) _, e =>
    addCopies (addPattern p) min (addOptional (addPattern p) e.1 (max - min) e)
  | .capture _ p, e => addPattern p e
  | .sequence ps, e => addSequence ps e
  | .alternatives ps, e => addAlternatives ps e

/-- Nodes for patterns in a row. -/
def addSequence : List Pattern → Entered → Entered
  | [], e => e
  | p :: ps, e => addPattern p (addSequence ps e)

/-- Nodes for alternatives, of which there is at least one. -/
def addAlternatives : List Pattern → Entered → Entered
  | [], e => e
  | [p], e => addPattern p e
  | p :: q :: ps, (next, m) =>
    let (second, m) := addAlternatives (q :: ps) (next, m)
    let (first, m) := addPattern p (next, m)
    m.add (.fork first second)

end

/-- The automaton of a pattern, and the node at which it begins. -/
def ofPattern (p : Pattern) : Entered := addPattern p (add #[] .done)

/-! ### Running -/

/-- What a run has found at one place of a text. -/
structure Visit where
  /-- Whether the pattern has matched. -/
  matched : Bool
  /-- The nodes to visit at the next place. -/
  ahead : List Nat
  /-- For every node the number of the last place at which it was visited. -/
  seen : Array Nat

/-- Visit the nodes of a list at a place with the given number and neighbours, and the
nodes to which they lead without taking a character. Every node is visited once; `fuel`
bounds the nodes that are looked at. -/
def visit (m : Automaton) (place : Nat) (before after : Option Char) :
    Nat → List Nat → List Nat → Array Nat → Visit
  | 0, _, ahead, seen => ⟨false, ahead, seen⟩
  | _ + 1, [], ahead, seen => ⟨false, ahead, seen⟩
  | fuel + 1, i :: rest, ahead, seen =>
    if seen[i]? == some place then visit m place before after fuel rest ahead seen
    else
      let seen := seen.setIfInBounds i place
      match m[i]? with
      | none => visit m place before after fuel rest ahead seen
      | some .done => ⟨true, ahead, seen⟩
      | some (.take c next) =>
        let ahead := if after == some c then next :: ahead else ahead
        visit m place before after fuel rest ahead seen
      | some (.takeOf s next) =>
        let ahead := if after.any s.contains then next :: ahead else ahead
        visit m place before after fuel rest ahead seen
      | some (.check a next) =>
        let rest := if a.holds before after then next :: rest else rest
        visit m place before after fuel rest ahead seen
      | some (.fork first second) =>
        visit m place before after fuel (first :: second :: rest) ahead seen

/-- Visit all nodes of a list and what they lead to. A node that is visited adds at most
two to the list, which bounds the nodes that are looked at. -/
def visitAll (m : Automaton) (place : Nat) (before after : Option Char) (nodes : List Nat)
    (seen : Array Nat) : Visit :=
  visit m place before after (nodes.length + 2 * m.size + 1) nodes [] seen

/-- Run over a text from the place with the given number. A match may begin at any place
with the node `start`. -/
def run (m : Automaton) (start place : Nat) (before : Option Char) :
    List Char → List Nat → Array Nat → Bool
  | [], nodes, seen => (m.visitAll place before none (start :: nodes) seen).matched
  | c :: cs, nodes, seen =>
    let v := m.visitAll place before (some c) (start :: nodes) seen
    if v.matched then true else m.run start (place + 1) (some c) cs v.ahead v.seen

end Automaton

/-- Whether a pattern matches somewhere in a text. -/
def Pattern.isMatch (p : Pattern) (s : String) : Bool :=
  let (start, m) := Automaton.ofPattern p
  m.run start 1 none s.toList [] (Array.replicate m.size 0)

end RegulatoryReporting
