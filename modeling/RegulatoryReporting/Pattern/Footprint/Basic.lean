/-!
# The Room That Patterns Take

A pattern is accepted only if its automaton stays within a limit. The automaton reads the
bytes of UTF-8; it has nodes of one size, and some of them hold more: a fork holds its
links, a choice between byte ranges holds a transition for each. A part that ends in a fork
needs one more link there to go on.

Measuring stops as soon as the limit is passed, so that a pattern with huge repetitions is
refused quickly.
-/

namespace RegulatoryReporting

/-- How much room an automaton takes. -/
structure Footprint where
  /-- How many nodes there are. -/
  nodes : Nat := 0
  /-- The bytes that nodes hold in addition to their size. -/
  held : Nat := 0
  deriving DecidableEq, Repr

namespace Footprint

/-- The bytes of a node. -/
def nodeSize : Nat := 32

/-- The bytes of a link that a fork holds. -/
def linkSize : Nat := 4

/-- The bytes of a transition that a choice holds. -/
def transitionSize : Nat := 8

/-- All bytes of the automaton. -/
def size (f : Footprint) : Nat := nodeSize * f.nodes + f.held

/-- The limit on the bytes of an automaton. -/
def limit : Nat := 10485760

/-- Whether the automaton stays within the limit. -/
def fits (f : Footprint) : Bool := f.size ≤ limit

/-- The footprint with some more links. -/
def link (f : Footprint) (count : Nat) : Footprint :=
  { f with held := f.held + linkSize * count }

/-- The footprint with one more node that holds some bytes, if it stays within the
limit. -/
def node? (f : Footprint) (held : Nat) : Option Footprint :=
  let f : Footprint := ⟨f.nodes + 1, f.held + held⟩
  if f.fits then some f else none

end Footprint

/-- The room taken so far, after a part. -/
structure Measured where
  /-- The room. -/
  footprint : Footprint
  /-- Whether the part ends in a fork. -/
  forks : Bool := false
  deriving DecidableEq, Repr

namespace Measured

/-- The room after the part goes on to something else. -/
def goOn (m : Measured) : Footprint :=
  if m.forks then m.footprint.link 1 else m.footprint

/-- The room after one more node. -/
def ofNode? (f : Footprint) : Option Measured := (f.node? 0).map fun f => ⟨f, false⟩

end Measured

end RegulatoryReporting
