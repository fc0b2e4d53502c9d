import RegulatoryReporting.Pattern.Footprint.Basic

/-!
# The Room of Alternatives That Are Words

Alternatives that are all literals share what they begin with: they are kept in a tree over
their bytes. Where a word ends, the order of preference forbids later words to share what
earlier ones go on with, so the transitions of a node come in chunks with an end between
two of them.
-/

namespace RegulatoryReporting.Footprint

/-- A word as its bytes. -/
abbrev Word := List UInt8

/-- The words of a node in chunks: those before the first end, those up to the next, and
so on. The first bytes are split off. -/
def chunks : List Word → List (List (UInt8 × Word))
  | [] => [[]]
  | [] :: words => [] :: chunks words
  | (b :: rest) :: words =>
    match chunks words with
    | [] => [[(b, rest)]]
    | chunk :: more => ((b, rest) :: chunk) :: more

/-- The words without the ends that follow a first one at once, which add nothing. -/
def dropRepeatedEnds : List Word → List Word
  | [] :: words => [] :: words.dropWhile List.isEmpty
  | words => words

/-- The words of a chunk behind each byte with which one begins. -/
def branches (chunk : List (UInt8 × Word)) : List (List Word) :=
  (chunk.map Prod.fst).eraseDups.map fun b =>
    (chunk.filter fun entry => entry.1 == b).map Prod.snd

/-- The room of a chunk without what lies behind it. -/
def addChunk? (f : Footprint) (width : Nat) : Option Footprint :=
  match width with
  | 0 => some f
  | 1 => f.node? 0
  | width => f.node? (transitionSize * width)

/-- The room of the tree of some words, none longer than `depth`. A node behind which
nothing but ends lie is the end of the tree. -/
def addTree? : Nat → List Word → Footprint → Option Footprint
  | 0, _, f => some f
  | depth + 1, words, f =>
    if words.all List.isEmpty then some f
    else do
      let parts := (chunks (dropRepeatedEnds words)).map branches
      let f ← parts.flatten.foldlM (fun f words => addTree? depth words f) f
      let f ← parts.foldlM (fun f part => addChunk? f part.length) f
      let links := (parts.filter fun part => !part.isEmpty).length + (parts.length - 1)
      f.node? (linkSize * links)

/-- The room of alternatives that are words. -/
def words? (f : Footprint) (words : List Word) : Option Measured := do
  let f ← f.node? 0
  let f ← addTree? ((words.map List.length).foldl max 0 + 1) words f
  return ⟨f, false⟩

end RegulatoryReporting.Footprint
