import RegulatoryReporting.Text.CharSet

/-!
# Characters as Sequences of Byte Ranges

The characters of a range have encodings in UTF-8 that fall into sequences of byte ranges:
any byte of the first range, followed by any byte of the second, and so on. A range is cut
where the number of bytes changes, and then at the places where a byte in front changes
while the bytes behind it do not run through all their values.

## Main results

* `byteSequences` — the sequences for a range, in ascending order.
-/

namespace RegulatoryReporting.Text

/-- Bytes in a row, both ends included. -/
structure ByteRange where
  /-- The first byte. -/
  first : Nat
  /-- The last byte. -/
  last : Nat
  deriving DecidableEq, Repr

/-- How many values `n` bytes that continue a character run through. -/
def continuedValues : Nat → Nat
  | 0 => 1
  | n + 1 => 64 * continuedValues n

/-- All bytes that continue a character. -/
def continuation : ByteRange := ⟨0x80, 0xBF⟩

/-- The sequences for values from `first` to `last`, which are written with a byte that has
the bits of `mark` set and `n` bytes after it. -/
def markedSequences (n mark first last : Nat) : List (List ByteRange) :=
  match n with
  | 0 => [[⟨mark + first, mark + last⟩]]
  | n + 1 =>
    let unit := continuedValues (n + 1)
    let lead (x : Nat) (first last : Nat) : List (List ByteRange) :=
      (markedSequences n 0x80 first last).map fun rest => ⟨mark + x, mark + x⟩ :: rest
    let x := first / unit
    let y := last / unit
    if x == y then lead x (first % unit) (last % unit)
    else
      let startsWhole := first % unit == 0
      let endsWhole := last % unit == unit - 1
      let start := if startsWhole then x else x + 1
      let past := if endsWhole then y + 1 else y
      let low := if startsWhole then [] else lead x (first % unit) (unit - 1)
      let middle :=
        if start < past then
          [⟨mark + start, mark + past - 1⟩ :: List.replicate (n + 1) continuation]
        else []
      let high := if endsWhole then [] else lead y 0 (last % unit)
      low ++ middle ++ high

/-- The part of a range that lies between two code points. -/
def cutRange (r : CharRange) (first last : Nat) : Option CharRange :=
  let first := max r.first first
  let last := min r.last last
  if first ≤ last then some ⟨first, last⟩ else none

/-- The sequences for a range of characters. -/
def byteSequences (r : CharRange) : List (List ByteRange) :=
  let part (n mark first last : Nat) : List (List ByteRange) :=
    match cutRange r first last with
    | some r => markedSequences n mark r.first r.last
    | none => []
  part 0 0 0 0x7F ++ part 1 0xC0 0x80 0x7FF ++ part 2 0xE0 0x800 0xFFFF ++
    part 3 0xF0 0x10000 0x10FFFF

/-- The sequences for a set of characters. -/
def CharSet.byteSequences (s : CharSet) : List (List ByteRange) :=
  s.ranges.flatMap Text.byteSequences

end RegulatoryReporting.Text
