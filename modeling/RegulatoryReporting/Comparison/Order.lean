import RegulatoryReporting.Comparison.Instant
import RegulatoryReporting.Json.Scalar

/-!
# The Order of Values

Two values of a record are compared by what they stand for.

* If both stand for numbers and one of them is a JSON number, they are compared as
  binary64 numbers; a string stands for a number if it writes a finite one.
* Two truth values are compared, false before true.
* Two strings that both stand for instants are compared as instants, other strings by
  their characters, without the blanks around them.
* An array or an object equals only the same array or object and is otherwise not
  comparable.
* Other scalars are compared by their texts. Null is not comparable.
-/

namespace RegulatoryReporting.Json

/-- The number that a value stands for. -/
def toNumber? : Json → Option Binary64
  | num n => some n.toBinary64
  | str s => looseNumber? (Text.trim s)
  | _ => none

/-- The order of characters, one by one. -/
def compareChars : List Char → List Char → Ordering
  | [], [] => .eq
  | [], _ :: _ => .lt
  | _ :: _, [] => .gt
  | c :: cs, d :: ds => (Ord.compare c.toNat d.toNat).then (compareChars cs ds)

/-- The order of texts, without the blanks around them. -/
def compareTexts (s t : String) : Ordering :=
  compareChars (Text.trimList s.toList) (Text.trimList t.toList)

/-- The order of strings: as instants if both are, as texts otherwise. -/
def compareStrings (s t : String) : Ordering :=
  match Instant.ofText? s, Instant.ofText? t with
  | some a, some b => a.compare b
  | _, _ => compareTexts s t

/-- Whether a value is an array or an object. -/
def isContainer : Json → Bool
  | arr _ => true
  | obj _ => true
  | _ => false

/-- The order of values that are not compared as numbers. -/
def compareKinds (a b : Json) : Option Ordering :=
  match a, b with
  | bool x, bool y => some (Ord.compare x y)
  | str s, str t => some (compareStrings s t)
  | a, b =>
    if a.isContainer || b.isContainer then if a.same b then some .eq else none
    else do
      let s ← a.scalarText?
      let t ← b.scalarText?
      return compareTexts s t

/-- The numbers that two values are compared as, if they are compared as numbers. -/
def asNumbers? (a b : Json) : Option (Binary64 × Binary64) :=
  if a.isNumber || b.isNumber then do
    let x ← a.toNumber?
    let y ← b.toNumber?
    return (x, y)
  else none

/-- The order of two values, if they are comparable. -/
def compare (a b : Json) : Option Ordering :=
  match a.asNumbers? b with
  | some (x, y) => some (x.compare y)
  | none => compareKinds a b

/-- Whether two values are comparable and equal. -/
def looselyEqual (a b : Json) : Bool := a.compare b == some .eq

end RegulatoryReporting.Json
