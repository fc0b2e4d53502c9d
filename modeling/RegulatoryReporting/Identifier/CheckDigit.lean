import RegulatoryReporting.Identifier.Shape
import RegulatoryReporting.Number.Reading
import RegulatoryReporting.Text.WhiteSpace

/-!
# Check Digits

Two identifiers carry check digits. Both read a letter as a number of two digits, `A` as
ten up to `Z` as thirty-five.

* The last two digits of a legal entity identifier complement the remainder modulo 97 of
  the number written by the rest and two zeros to ninety-eight.
* The last digit of a securities identification number completes the weighted digit sum
  of the rest to a multiple of ten; every second digit counted from the right is doubled,
  and the digits of a doubled one are added.

## Main results

* `remainder97_lt` — the remainder is below 97, so its complement is two digits.
-/

namespace RegulatoryReporting

/-- The number that a digit or a capital letter stands for. -/
def codeValue (c : Char) : Nat :=
  if c.isDigit then c.toNat - 48 else c.toNat - 55

/-! ### Legal entity identifiers -/

/-- The remainder after one more character. -/
def remainderStep (r : Nat) (c : Char) : Nat :=
  let v := codeValue c
  if v < 10 then (r * 10 + v) % 97 else (r * 100 + v) % 97

/-- The remainder modulo 97 of the number that characters write. -/
def remainder97 (cs : List Char) : Nat := cs.foldl remainderStep 0

/-- A step leaves a remainder below 97. -/
theorem remainderStep_lt (r : Nat) (c : Char) : remainderStep r c < 97 := by
  simp only [remainderStep]
  split <;> exact Nat.mod_lt _ (by decide)

/-- The remainder is below 97. -/
theorem remainder97_lt (cs : List Char) : remainder97 cs < 97 := by
  suffices h : ∀ r, r < 97 → cs.foldl remainderStep r < 97 from h 0 (by decide)
  induction cs with
  | nil => intro r h; exact h
  | cons c cs ih => intro r _; exact ih _ (remainderStep_lt r c)

/-- Whether a text is a legal entity identifier with the right check digits, blanks around
it being dropped. -/
def isValidLei (s : String) : Bool :=
  let cs := Text.trimList s.toList
  Shape.lei.fits cs &&
    98 - remainder97 (cs.take 18 ++ ['0', '0']) == digitsValue (cs.drop 18)

/-! ### Securities identification numbers -/

/-- The digits of a character, two for a letter. -/
def codeDigits (c : Char) : List Nat :=
  let v := codeValue c
  if 10 ≤ v then [v / 10, v % 10] else [v]

/-- A doubled digit, the digits of its double added. -/
def doubledDigit (d : Nat) : Nat :=
  if 9 < 2 * d then 2 * d - 9 else 2 * d

/-- The weighted sum of digits, given from the right; `double` tells whether the first of
them is doubled. -/
def weightedSum (double : Bool) : List Nat → Nat
  | [] => 0
  | d :: ds => (if double then doubledDigit d else d) + weightedSum (!double) ds

/-- The digit that completes the weighted sum of a body. -/
def completingDigit (body : List Char) : Nat :=
  (10 - weightedSum true (body.flatMap codeDigits).reverse % 10) % 10

/-- Whether a text is a securities identification number with the right check digit,
blanks around it being dropped. -/
def isValidIsin (s : String) : Bool :=
  let cs := Text.trimList s.toList
  Shape.isin.fits cs && completingDigit (cs.take 11) == digitsValue (cs.drop 11)

end RegulatoryReporting
