import RegulatoryReporting.Reference.Kind
import RegulatoryReporting.Wire.Decoder

/-!
# Reference Data

The codes known to each register, held in memory. A code is normalised when it is added
and when it is asked for: blanks around it are dropped and it is written in capitals. Each
register keeps its codes in ascending order, so equal data has one representation.

## Main results

* `ReferenceCodes.codes_insert` — adding a code changes its own register and no other.
* `ReferenceCodes.contains_insert` — what is known after a code was added.
-/

namespace RegulatoryReporting

/-- The normalised codes of each register in ascending order. -/
structure ReferenceCodes where
  /-- Currency codes. -/
  currencies : List String := []
  /-- Country codes. -/
  countries : List String := []
  /-- Market identifier codes. -/
  mics : List String := []
  deriving DecidableEq, Repr

namespace ReferenceCodes

/-- The codes of a register. -/
def codes (r : ReferenceCodes) : ReferenceKind → List String
  | .currency => r.currencies
  | .country => r.countries
  | .mic => r.mics

/-- The same data with other codes in one register. -/
def withCodes (r : ReferenceCodes) (kind : ReferenceKind) (codes : List String) :
    ReferenceCodes :=
  match kind with
  | .currency => { r with currencies := codes }
  | .country => { r with countries := codes }
  | .mic => { r with mics := codes }

/-- Add a code to a register. -/
def insert (r : ReferenceCodes) (kind : ReferenceKind) (code : String) : ReferenceCodes :=
  r.withCodes kind (Ordered.insert compare (Text.normalizeCode code) (r.codes kind))

/-- Add several codes to a register. -/
def insertAll (r : ReferenceCodes) (kind : ReferenceKind) (codes : List String) :
    ReferenceCodes :=
  codes.foldl (fun r code => r.insert kind code) r

/-- Whether a register knows a code. -/
def contains (r : ReferenceCodes) (kind : ReferenceKind) (code : String) : Bool :=
  (r.codes kind).contains (Text.normalizeCode code)

/-- The data as something that can be asked. -/
def lookup (r : ReferenceCodes) : Lookup := r.contains

/-- The number of codes in all registers. -/
def size (r : ReferenceCodes) : Nat := r.currencies.length + r.countries.length + r.mics.length

/-- Whether no register has a code. -/
def isEmpty (r : ReferenceCodes) : Bool := r.size == 0

/-- Data with the given codes, not yet normalised. -/
def ofLists (currencies countries mics : List String) : ReferenceCodes :=
  (({} : ReferenceCodes).insertAll .currency currencies).insertAll .country countries
    |>.insertAll .mic mics

/-! ### Laws -/

@[simp] theorem codes_withCodes (r : ReferenceCodes) (kind other : ReferenceKind)
    (codes : List String) :
    (r.withCodes kind codes).codes other = if other = kind then codes else r.codes other := by
  cases kind <;> cases other <;> rfl

/-- Adding a code changes its own register and no other. -/
theorem codes_insert (r : ReferenceCodes) (kind other : ReferenceKind) (code : String) :
    (r.insert kind code).codes other =
      if other = kind then Ordered.insert compare (Text.normalizeCode code) (r.codes kind)
      else r.codes other := by
  simp [insert]

/-- After a code was added, its register knows it, and all registers know what they knew. -/
theorem contains_insert (r : ReferenceCodes) (kind other : ReferenceKind)
    (code asked : String) :
    (r.insert kind code).contains other asked = true ↔
      (other = kind ∧ Text.normalizeCode asked = Text.normalizeCode code) ∨
        r.contains other asked = true := by
  have faithful : ∀ a b : String, compare a b = .eq → a = b := fun a b h =>
    Std.LawfulEqCmp.eq_of_compare h
  simp only [contains, codes_insert, List.contains_iff_mem]
  by_cases h : other = kind
  · subst h
    simp [Ordered.mem_insert faithful]
  · simp [h]

/-! ### Wire form -/

/-- What was read of reference data. -/
structure Draft where
  /-- Currency codes. -/
  currencies : Option (List String) := none
  /-- Country codes. -/
  countries : Option (List String) := none
  /-- Market identifier codes. -/
  mics : Option (List String) := none

open Decoder in
/-- The members of reference data: a list of codes for each register. -/
def slots : List (Slot Draft) :=
  [slot "CURRENCY" false (list string) (·.currencies)
     fun s a => { s with currencies := some a },
   slot "COUNTRY" false (list string) (·.countries) fun s a => { s with countries := some a },
   slot "MIC" false (list string) (·.mics) fun s a => { s with mics := some a }]

/-- The data once its members were read. -/
def Draft.finish (s : Draft) : Except DecodeError ReferenceCodes :=
  .ok (ofLists (s.currencies.getD []) (s.countries.getD []) (s.mics.getD []))

/-- The decoder of reference data. -/
def decoder : Decoder ReferenceCodes :=
  Decoder.structured "InMemoryReferenceData" slots {} Draft.finish

/-- Read reference data from a text. -/
def ofText (s : String) : Except DecodeError ReferenceCodes := decoder.ofText s

/-- The wire form of reference data. -/
def toJson (r : ReferenceCodes) : Json :=
  .obj [("COUNTRY", .ofStrings r.countries), ("CURRENCY", .ofStrings r.currencies),
    ("MIC", .ofStrings r.mics)]

end ReferenceCodes

end RegulatoryReporting
