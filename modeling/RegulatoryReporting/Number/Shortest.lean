import RegulatoryReporting.Number.Binary64

/-!
# Shortest Decimal Text

A number is written with the fewest decimal digits that read back as the same number,
and of those with the digits nearest to it. A decimal reads back when it lies in the
interval of reals that round to the number; the interval holds its ends exactly when the
mantissa is even. On the grid of `n` digits only the two neighbours of the number can
lie in the interval, so these are tested for `n = 1, …, 17`.

Numbers from `10 ^ -5` up to `10 ^ 16` are written positionally, the others with an
exponent that shows its sign.
-/

namespace RegulatoryReporting.Binary64

/-- A positive decimal `digits * 10 ^ exponent`. -/
structure Decimal where
  /-- The digits, read as a natural number. -/
  digits : Nat
  /-- The power of ten that the last digit counts. -/
  exponent : Int
  deriving DecidableEq, Repr

/-- `n * 10 ^ e`, as a numerator and a denominator. -/
def tenRatio (n : Nat) (e : Int) : Nat × Nat :=
  if e ≥ 0 then (n * tenPow e.toNat, 1) else (n, tenPow (-e).toNat)

/-- Four times the magnitude and the ends of the interval that rounds to it, in units. -/
def roundingInterval (x : Binary64) : Nat × Nat × Nat :=
  let step := twoPow x.scale
  let below := if x.mantissa = twoPow 52 ∧ x.scale ≠ 0 then step else 2 * step
  let value := 4 * x.magnitude
  (value - below, value, value + 2 * step)

/-- Whether a decimal lies in the interval that rounds to the number. -/
def Decimal.readsBack (d : Decimal) (x : Binary64) : Bool :=
  let (low, _, high) := x.roundingInterval
  let (num, den) := tenRatio d.digits d.exponent
  let scaled := 4 * num * twoPow 1074
  if x.mantissa % 2 = 0 then low * den ≤ scaled && scaled ≤ high * den
  else low * den < scaled && scaled < high * den

/-- The neighbours of the number on the grid `10 ^ e`: the lower one, and whether the
upper one is nearer, with a tie going to the even digit. -/
def lowerNeighbour (x : Binary64) (e : Int) : Nat × Bool :=
  let (num, den) := tenRatio 1 e
  let n := x.magnitude * den
  let d := num * twoPow 1074
  let q := n / d
  let r := n % d
  (q, d < 2 * r || (d == 2 * r && q % 2 == 1))

/-- The decimal on the grid `10 ^ e` that reads back, the nearer one if there are two. -/
def onGrid? (x : Binary64) (e : Int) : Option Decimal :=
  let (q, upperNearer) := x.lowerNeighbour e
  let lower : Decimal := ⟨q, e⟩
  let upper : Decimal := ⟨q + 1, e⟩
  let candidates := if upperNearer then [upper, lower] else [lower, upper]
  candidates.find? (·.readsBack x)

/-- The power of ten just above a positive number: the least `k` with the number below
`10 ^ k`, searched upwards from an estimate. -/
def decimalReach (x : Binary64) : Int :=
  let estimate : Int := ((x.magnitude.log2 : Int) - 1074) * 30103 / 100000 - 1
  let below (k : Int) : Bool :=
    let (num, den) := tenRatio 1 k
    x.magnitude * den < num * twoPow 1074
  ((List.range 4).map fun (i : Nat) => estimate + (i : Int)).find? below |>.getD (estimate + 4)

/-- The decimal without its trailing zeros. -/
def Decimal.strip : Nat → Decimal → Decimal
  | 0, d => d
  | fuel + 1, d =>
    if d.digits ≠ 0 ∧ d.digits % 10 = 0 then
      Decimal.strip fuel ⟨d.digits / 10, d.exponent + 1⟩
    else d

/-- The shortest decimal that reads back as the number, which is not zero. -/
def shortest (x : Binary64) : Decimal :=
  let k := x.decimalReach
  let grids := (List.range 17).map fun (i : Nat) => k - ((i : Int) + 1)
  let d := (grids.findSome? x.onGrid?).getD ⟨x.magnitude, -1074⟩
  d.strip 20

/-- The text of a decimal: positional where the value lies from `10 ^ -5` up to
`10 ^ 16`, with one digit before the point and a signed exponent elsewhere. -/
def Decimal.text (d : Decimal) : List Char :=
  let ds := Nat.toDigits 10 d.digits
  let point := (ds.length : Int) + d.exponent
  if -4 ≤ point ∧ point ≤ 16 then
    if point ≤ 0 then '0' :: '.' :: (List.replicate (-point).toNat '0' ++ ds)
    else if d.exponent ≥ 0 then ds ++ List.replicate d.exponent.toNat '0' ++ ['.', '0']
    else ds.take point.toNat ++ '.' :: ds.drop point.toNat
  else
    let e := point - 1
    let body := match ds with
      | [] => []
      | [c] => [c]
      | c :: rest => c :: '.' :: rest
    body ++ ['e', if e < 0 then '-' else '+'] ++ Nat.toDigits 10 e.natAbs

/-- The text of a number. -/
def text (x : Binary64) : String :=
  let body := if x.isZero then ['0', '.', '0'] else x.shortest.text
  String.ofList (if x.negative then '-' :: body else body)

end RegulatoryReporting.Binary64
