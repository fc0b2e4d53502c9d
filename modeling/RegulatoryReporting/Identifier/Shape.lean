/-!
# Shapes of Codes

Standard codes have a fixed shape: so many capital letters, so many digits. A shape is the
list of what may stand at each place, and a code has the shape when it has one character
for each place. Only ASCII letters and digits occur in codes.

## Main results

* `Shape.length_of_fits` — a code is as long as its shape.
* `Shape.admits_of_fits` — every character of a code is admitted by some place.
-/

namespace RegulatoryReporting

/-- What may stand at one place of a code. -/
inductive Place
  | capital
  | digit
  | capitalOrDigit
  /-- This very character. -/
  | only (c : Char)
  deriving DecidableEq, Repr

/-- Whether a character may stand at a place. -/
def Place.admits : Place → Char → Bool
  | capital, c => c.isUpper
  | digit, c => c.isDigit
  | capitalOrDigit, c => c.isUpper || c.isDigit
  | only d, c => c == d

/-- The code points of the ASCII digits and capital letters. -/
theorem Place.toNat_of_admits {c : Char} (h : capitalOrDigit.admits c = true) :
    (48 ≤ c.toNat ∧ c.toNat ≤ 57) ∨ (65 ≤ c.toNat ∧ c.toNat ≤ 90) := by
  rw [admits, Bool.or_eq_true] at h
  rcases h with hupper | hdigit
  · have hrange : 'A'.val ≤ c.val ∧ c.val ≤ 'Z'.val := of_decide_eq_true hupper
    rw [UInt32.le_iff_toNat_le, UInt32.le_iff_toNat_le] at hrange
    exact .inr hrange
  · have hrange : ('0'.val ≤ c.val && c.val ≤ '9'.val) = true := hdigit
    rw [Bool.and_eq_true, decide_eq_true_eq, decide_eq_true_eq, UInt32.le_iff_toNat_le,
      UInt32.le_iff_toNat_le] at hrange
    exact .inl hrange

/-- What may stand at each place of a code. -/
abbrev Shape := List Place

namespace Shape

/-- Whether a code has one fitting character for each place. -/
def fits : Shape → List Char → Bool
  | [], [] => true
  | p :: ps, c :: cs => p.admits c && fits ps cs
  | _, _ => false

/-- A code is as long as its shape. -/
theorem length_of_fits {shape : Shape} {cs : List Char} (h : shape.fits cs = true) :
    cs.length = shape.length := by
  induction shape generalizing cs with
  | nil => cases cs with
    | nil => rfl
    | cons => simp [fits] at h
  | cons p ps ih => cases cs with
    | nil => simp [fits] at h
    | cons c cs =>
      simp only [fits, Bool.and_eq_true] at h
      simp [ih h.2]

/-- Every character of a code stands at a place that admits it. -/
theorem admits_of_fits {shape : Shape} {cs : List Char} (h : shape.fits cs = true) :
    ∀ c ∈ cs, ∃ p ∈ shape, p.admits c = true := by
  induction shape generalizing cs with
  | nil => cases cs with
    | nil => simp
    | cons => simp [fits] at h
  | cons p ps ih => cases cs with
    | nil => simp
    | cons c cs =>
      simp only [fits, Bool.and_eq_true] at h
      intro d hd
      rcases List.mem_cons.1 hd with rfl | hd
      · exact ⟨p, by simp, h.1⟩
      · obtain ⟨q, hq, hadmits⟩ := ih h.2 d hd
        exact ⟨q, by simp [hq], hadmits⟩

/-- A number of places of one kind. -/
def run (n : Nat) (p : Place) : Shape := List.replicate n p

/-- Legal entity identifiers: eighteen letters or digits and two check digits. -/
def lei : Shape := run 18 .capitalOrDigit ++ run 2 .digit

/-- Securities identification numbers: two letters, nine letters or digits and a check
digit. -/
def isin : Shape := run 2 .capital ++ run 9 .capitalOrDigit ++ run 1 .digit

/-- Currency codes: three letters. -/
def currency : Shape := run 3 .capital

/-- Country codes: two letters. -/
def country : Shape := run 2 .capital

/-- Market identifier codes: four letters or digits. -/
def mic : Shape := run 4 .capitalOrDigit

/-- Product identifiers: `QZ` and ten letters or digits. -/
def upi : Shape := [.only 'Q', .only 'Z'] ++ run 10 .capitalOrDigit

/-- Classifications of financial instruments: six letters. -/
def cfi : Shape := run 6 .capital

/-- Whether a code is a transaction identifier: the identifier of a legal entity followed
by one to thirty-two letters or digits. -/
def fitsUti (cs : List Char) : Bool :=
  let tail := cs.drop 20
  lei.fits (cs.take 20) && 1 ≤ tail.length && tail.length ≤ 32 &&
    tail.all fun c => Place.capitalOrDigit.admits c

end Shape

end RegulatoryReporting
