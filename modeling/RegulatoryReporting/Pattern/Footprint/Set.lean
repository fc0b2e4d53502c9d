import RegulatoryReporting.Pattern.Footprint.Basic
import RegulatoryReporting.Text.ByteRange
import Std.Data.HashMap

/-!
# The Room of Sets

A set of ASCII is one choice between its ranges. Any other set reads several bytes. Going
forward its sequences of byte ranges, which ascend, are put into a tree whose nodes are
completed as soon as no later sequence can reach them; a completed node that was seen
before is used again. Going backward each sequence is a chain of nodes, and chains share
their last parts. What was seen before is found in a table with a fixed number of slots,
where a later entry displaces an earlier one of the same slot; so the room depends on the
numbers of the nodes, though only little.
-/

namespace RegulatoryReporting.Footprint

open Text

/-! ### Slots -/

/-- Take one more number into a hash. -/
def mix (hash : UInt64) (n : Nat) : UInt64 := (hash ^^^ n.toUInt64) * 1099511628211

/-- The hash of no numbers. -/
def emptyHash : UInt64 := 14695981039346656037

/-! ### Sets of ASCII -/

/-- A choice between the ranges of a set of ASCII, and the node after it. -/
def asciiSet? (f : Footprint) (s : CharSet) : Option Measured := do
  let f ← f.node? 0
  let f ← f.node? (transitionSize * s.ranges.length)
  return ⟨f, false⟩

/-! ### Forward -/

/-- A transition of a choice. -/
structure Transition where
  /-- The bytes that it takes. -/
  bytes : ByteRange
  /-- The number of the node to which it leads. -/
  next : Nat
  deriving DecidableEq, Repr

/-- The slots for completed nodes. -/
def nodeSlots : UInt64 := 10000

/-- The slot of a completed node. -/
def nodeSlot (transitions : Array Transition) : UInt64 :=
  transitions.foldl (fun h t => mix (mix (mix h t.bytes.first) t.bytes.last) t.next)
    emptyHash % nodeSlots

/-- The room so far, and the completed nodes that can be used again. -/
structure Forward where
  /-- The room so far. -/
  footprint : Footprint
  /-- The completed nodes by slot, with their numbers. -/
  seen : Std.HashMap UInt64 (Array Transition × Nat) := {}

/-- The number of a completed node, which is a new one unless it was seen. -/
def Forward.complete? (m : Forward) (transitions : Array Transition) :
    Option (Nat × Forward) :=
  let slot := nodeSlot transitions
  let known := (m.seen.get? slot).filter fun entry => entry.1 == transitions
  match known with
  | some (_, number) => some (number, m)
  | none =>
    let number := m.footprint.nodes
    (m.footprint.node? (transitionSize * transitions.size)).map fun footprint =>
      (number, ⟨footprint, m.seen.insert slot (transitions, number)⟩)

/-- A node that is not completed yet. -/
structure OpenNode where
  /-- The transitions to completed nodes. -/
  transitions : Array Transition := #[]
  /-- The bytes of the transition to the next open node, if there is one. -/
  last? : Option ByteRange := none

/-- The transitions of a node, the last of them leading to a completed node. -/
def OpenNode.closed (n : OpenNode) (next : Nat) : Array Transition :=
  match n.last? with
  | some bytes => n.transitions.push ⟨bytes, next⟩
  | none => n.transitions

/-- Complete open nodes, the last first; the number is that of the first of them. -/
def completeAll? (target : Nat) : List OpenNode → Forward → Option (Nat × Forward)
  | [], m => some (target, m)
  | n :: deeper, m =>
    match completeAll? target deeper m with
    | none => none
    | some (next, m) => m.complete? (n.closed next)

/-- Add a sequence to the open nodes. Those that it does not pass are completed. -/
def addSequence? (target : Nat) :
    List OpenNode → List ByteRange → Forward → Option (List OpenNode × Forward)
  | n :: deeper, r :: rs, m =>
    if n.last? == some r then
      (addSequence? target deeper rs m).map fun (deeper, m) => (n :: deeper, m)
    else
      (completeAll? target deeper m).map fun (next, m) =>
        (⟨n.closed next, some r⟩ :: rs.map fun r => ⟨#[], some r⟩, m)
  | nodes, _, m => some (nodes, m)

/-- Add all sequences of a set and complete what is open. -/
def addSequences? (target : Nat) :
    List (List ByteRange) → List OpenNode → Forward → Option Footprint
  | [], nodes, m => (completeAll? target nodes m).map fun (_, m) => m.footprint
  | s :: sequences, nodes, m =>
    match addSequence? target nodes s m with
    | none => none
    | some (nodes, m) => addSequences? target sequences nodes m

/-- A set that is read forward. -/
def forwardSet? (f : Footprint) (s : CharSet) : Option Measured := do
  let target := f.nodes
  let f ← f.node? 0
  let f ← addSequences? target s.byteSequences [{}] ⟨f, {}⟩
  return ⟨f, false⟩

/-! ### Backward -/

/-- The slots for nodes of chains. -/
def chainSlots : UInt64 := 1000

/-- The slot of a node that takes some bytes and leads to another node. -/
def chainSlot (t : Transition) : UInt64 :=
  mix (mix (mix emptyHash t.next) t.bytes.first) t.bytes.last % chainSlots

/-- The room so far, and the nodes of chains that can be used again. -/
structure Backward where
  /-- The room so far. -/
  footprint : Footprint
  /-- The nodes by slot, with their numbers. -/
  seen : Std.HashMap UInt64 (Transition × Nat) := {}

/-- The chain of a sequence, which begins at the end of all chains. -/
def addChain? : Nat → List ByteRange → Backward → Option Backward
  | _, [], m => some { m with footprint := m.footprint.link 1 }
  | next, r :: rs, m =>
    let t : Transition := ⟨r, next⟩
    let slot := chainSlot t
    let known := (m.seen.get? slot).filter fun entry => entry.1 == t
    match known with
    | some (_, number) => addChain? number rs m
    | none =>
      let number := m.footprint.nodes
      match m.footprint.node? 0 with
      | none => none
      | some footprint => addChain? number rs ⟨footprint, m.seen.insert slot (t, number)⟩

/-- The chains of sequences. -/
def addChains? (target : Nat) : List (List ByteRange) → Backward → Option Footprint
  | [], m => some m.footprint
  | s :: sequences, m =>
    match addChain? target s m with
    | none => none
    | some m => addChains? target sequences m

/-- A set that is read backward: a fork, the end of all chains, and the chains. -/
def backwardSet? (f : Footprint) (s : CharSet) : Option Measured := do
  let f ← f.node? 0
  let target := f.nodes
  let f ← f.node? 0
  let f ← addChains? target s.byteSequences ⟨f, {}⟩
  return ⟨f, false⟩

/-- The room after one character of a set. -/
def set? (backward : Bool) (f : Footprint) (s : CharSet) : Option Measured :=
  if s.isAscii then asciiSet? f s
  else if backward then backwardSet? f s
  else forwardSet? f s

end RegulatoryReporting.Footprint
