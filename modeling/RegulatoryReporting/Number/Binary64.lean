/-!
# Finite Binary64 Numbers

A finite binary64 number is a sign, a mantissa below `2 ^ 53` and a scale: its value is
`mantissa * 2 ^ (scale - 1074)`, so the scale counts up from the least exponent of the
format and every value is a whole number of *units* of `2 ^ -1074`. Order and equality
are those of the units (`Binary64.units`), arithmetic is exact arithmetic on naturals
followed by one rounding to nearest, ties to the even mantissa.

No infinity and no NaN is represented: an operation that leaves the range has no result.

## Main results

* `roundHalfEven_mul` — rounding an exact quotient changes nothing.
-/

namespace RegulatoryReporting

/-! ### Powers of two and ten -/

/-- A power of two. -/
def twoPow (n : Nat) : Nat := Nat.pow 2 n

/-- A power of ten. -/
def tenPow (n : Nat) : Nat := Nat.pow 10 n

theorem twoPow_pos (n : Nat) : 0 < twoPow n := Nat.two_pow_pos n

theorem twoPow_succ (n : Nat) : twoPow (n + 1) = 2 * twoPow n := Nat.pow_succ'

theorem twoPow_add (m n : Nat) : twoPow (m + n) = twoPow m * twoPow n := Nat.pow_add 2 m n

theorem twoPow_le_twoPow {m n : Nat} (h : m ≤ n) : twoPow m ≤ twoPow n :=
  Nat.pow_le_pow_right (by decide) h

/-- A number below a power of two has a logarithm below the exponent. -/
theorem log2_lt_of_lt_twoPow {n k : Nat} (hk : 0 < k) (h : n < twoPow k) : n.log2 < k := by
  by_cases hn : n = 0
  · rw [hn, Nat.log2_zero]
    exact hk
  · exact (Nat.log2_lt hn).2 h

/-- A number that reaches a power of two has a logarithm that reaches the exponent. -/
theorem le_log2_of_twoPow_le {n k : Nat} (h : twoPow k ≤ n) : k ≤ n.log2 :=
  (Nat.le_log2 (Nat.ne_of_gt (Nat.lt_of_lt_of_le (twoPow_pos k) h))).2 h

theorem tenPow_pos (n : Nat) : 0 < tenPow n := Nat.pow_pos (by decide)

/-! ### Rounding -/

/-- The quotient rounded to the nearest natural number, ties to the even one. -/
def roundHalfEven (num den : Nat) : Nat :=
  let q := num / den
  let r := num % den
  if 2 * r < den then q
  else if den < 2 * r then q + 1
  else if q % 2 = 0 then q else q + 1

/-- An exact quotient needs no rounding. -/
theorem roundHalfEven_mul (q : Nat) {den : Nat} (h : 0 < den) :
    roundHalfEven (q * den) den = q := by
  simp [roundHalfEven, Nat.mul_div_cancel _ h, h]

/-- A finite binary64 number, `± mantissa * 2 ^ (scale - 1074)`. -/
structure Binary64 where
  /-- Whether the sign is minus; zero has both signs. -/
  negative : Bool
  /-- The mantissa, a natural number of at most 53 bits. -/
  mantissa : Nat
  /-- The exponent, counted from the least one. -/
  scale : Nat
  deriving DecidableEq, Repr

namespace Binary64

/-- The number zero, with the given sign. -/
def zero (negative : Bool) : Binary64 := ⟨negative, 0, 0⟩

/-- The magnitude in units of `2 ^ -1074`. -/
def magnitude (x : Binary64) : Nat := x.mantissa * twoPow x.scale

/-- The value in units of `2 ^ -1074`. -/
def units (x : Binary64) : Int :=
  if x.negative then -(x.magnitude : Int) else x.magnitude

/-- Whether the number is one of the two zeros. -/
def isZero (x : Binary64) : Bool := x.mantissa == 0

/-- The order of two numbers. -/
def compare (x y : Binary64) : Ordering := Ord.compare x.units y.units

/-- The order of two numbers is the order of their units. -/
theorem compare_eq (x y : Binary64) : x.compare y = Ord.compare x.units y.units := rfl

/-- The greatest scale of a finite number. -/
def maxScale : Nat := 2045

/-- The number nearest to the positive ratio `num / den`, without regard to the upper
end of the range. -/
def nearest (negative : Bool) (num den : Nat) : Binary64 :=
  let n := num * twoPow 1074
  let scale := (n / den).log2 - 52
  let m := roundHalfEven n (den * twoPow scale)
  if m = twoPow 53 then ⟨negative, twoPow 52, scale + 1⟩ else ⟨negative, m, scale⟩

/-- The number if it is in range. -/
def finite? (x : Binary64) : Option Binary64 :=
  if x.scale ≤ maxScale then some x else none

/-- The number nearest to a ratio, if it is in range. -/
def ofRatio? (negative : Bool) (num den : Nat) : Option Binary64 :=
  (nearest negative num den).finite?

/-- The number nearest to an integer. -/
def ofInt (n : Int) : Binary64 :=
  nearest (n < 0) n.natAbs 1

/-- The product, rounded once. -/
def mul? (x y : Binary64) : Option Binary64 :=
  ofRatio? (x.negative != y.negative) (x.mantissa * y.mantissa * twoPow (x.scale + y.scale))
    (twoPow 2148)

/-- The quotient by a number of magnitude at least one, rounded once. -/
def div (x y : Binary64) : Binary64 :=
  nearest (x.negative != y.negative) (x.mantissa * twoPow x.scale) (y.mantissa * twoPow y.scale)

/-- How many decimal digits a natural number has. -/
def decimalLength (n : Nat) : Nat := (Nat.toDigits 10 n).length

/-- The number nearest to `digits * 10 ^ exponent`, if it is in range. Exponents that
are out of reach are settled before a power is taken. -/
def ofDecimal? (negative : Bool) (digits : Nat) (exponent : Int) : Option Binary64 :=
  let reach := decimalLength digits + exponent
  if digits = 0 ∨ reach < -330 then some (zero negative)
  else if reach > 310 then none
  else if exponent ≥ 0 then ofRatio? negative (digits * tenPow exponent.toNat) 1
  else ofRatio? negative digits (tenPow (-exponent).toNat)

end Binary64

end RegulatoryReporting
