import RegulatoryReporting.Number.Binary64

/-!
# Reading Numbers from Text

Two grammars write numbers.

* A *loose* number is what a record may hold as a text: an optional sign, digits with an
  optional point among or around them, an optional exponent. It is read to the nearest
  binary64 number; a text that would be infinite, or no number, has no value.
* A *literal* is a number of a JSON text, already split into its parts. Integers of 64
  bits, signed or not, stay exact. Every other literal is a binary64 number: its first
  64 bits worth of digits, rounded, then scaled by one multiplication or division by a
  power of ten.
-/

namespace RegulatoryReporting

/-- A JSON number: an exact integer or a binary64 number. -/
inductive Number
  /-- An integer literal in the signed or the unsigned 64-bit range. -/
  | int (n : Int)
  /-- Any other literal. -/
  | float (x : Binary64)
  deriving DecidableEq, Repr

/-- The number in binary64, rounded if it is an integer of more than 53 bits. -/
def Number.toBinary64 : Number → Binary64
  | .int n => .ofInt n
  | .float x => x

/-- Equality of numbers of one kind; an integer never equals a binary64 number, and the
two zeros are equal. -/
def Number.same : Number → Number → Bool
  | .int m, .int n => m == n
  | .float x, .float y => x.units == y.units
  | _, _ => false

/-- The value of a decimal digit. -/
def digitValue (c : Char) : Nat := c.toNat - 48

/-- The natural number that a list of decimal digits writes. -/
def digitsValue (cs : List Char) : Nat :=
  cs.foldl (fun n c => 10 * n + digitValue c) 0

/-- The leading decimal digits and what follows them. -/
def spanDigits (cs : List Char) : List Char × List Char :=
  (cs.takeWhile Char.isDigit, cs.dropWhile Char.isDigit)

/-! ### Loose numbers -/

/-- The exponent after its letter: digits with an optional sign, and nothing more. -/
def looseExponent? (cs : List Char) : Option Int :=
  let (negative, cs) := match cs with
    | '-' :: r => (true, r)
    | '+' :: r => (false, r)
    | r => (false, r)
  if cs.isEmpty || !cs.all Char.isDigit then none
  else some (if negative then -(digitsValue cs : Int) else digitsValue cs)

/-- The number that a whole text writes, if it writes a finite one. -/
def looseNumber? (s : String) : Option Binary64 :=
  let (negative, cs) := match s.toList with
    | '-' :: r => (true, r)
    | '+' :: r => (false, r)
    | r => (false, r)
  let (whole, cs) := spanDigits cs
  let (fraction, cs) := match cs with
    | '.' :: r => spanDigits r
    | r => ([], r)
  if whole.isEmpty && fraction.isEmpty then none
  else do
    let exponent ← match cs with
      | [] => some 0
      | c :: r => if c == 'e' || c == 'E' then looseExponent? r else none
    Binary64.ofDecimal? negative (digitsValue (whole ++ fraction))
      (exponent - (fraction.length : Int))

/-! ### Literals -/

/-- The parts of a JSON number. -/
structure Literal where
  /-- Whether a minus sign stands before the digits. -/
  negative : Bool
  /-- The digits before the point. -/
  whole : List Char
  /-- The digits after the point, if there is a point. -/
  fraction : Option (List Char)
  /-- The exponent, if there is one. -/
  exponent : Option Int

/-- The greatest significand that is kept while digits are read. -/
def maxSignificand : Nat := twoPow 64 - 1

/-- The significand of the digits that fit, and how many digits were left over. -/
def takeSignificand : Nat → List Char → Nat × Nat
  | n, [] => (n, 0)
  | n, c :: cs =>
    let m := 10 * n + digitValue c
    if m > maxSignificand then (n, cs.length + 1) else takeSignificand m cs

/-- A power of ten in binary64. -/
def tenPower (k : Nat) : Binary64 := .nearest false (tenPow k) 1

/-- A number scaled by a power of ten in steps of at most `10 ^ 308`, each rounded. -/
def scaleByTen? (x : Binary64) (e : Int) : Option Binary64 :=
  if x.isZero then some x
  else if e > 308 then none
  else if e ≥ 0 then x.mul? (tenPower e.toNat)
  else if e ≥ -308 then some (x.div (tenPower (-e).toNat))
  else if e ≥ -616 then some ((x.div (tenPower 308)).div (tenPower (-e - 308).toNat))
  else some (.zero x.negative)

/-- The binary64 number of a literal, if it is in range. -/
def Literal.float? (l : Literal) : Option Binary64 :=
  let (n, dropped) := takeSignificand 0 l.whole
  let fraction := l.fraction.getD []
  let (n, unread) := takeSignificand n fraction
  let e := (dropped : Int) - ((fraction.length - unread : Nat) : Int) + l.exponent.getD 0
  scaleByTen? (.nearest l.negative n 1) e

/-- The number of a literal, if it is in range. -/
def Literal.number? (l : Literal) : Option Number :=
  let n := digitsValue l.whole
  let exact := l.fraction.isNone && l.exponent.isNone &&
    (if l.negative then 0 < n && n ≤ twoPow 63 else n ≤ maxSignificand)
  if exact then some (.int (if l.negative then -(n : Int) else n))
  else l.float?.map .float

end RegulatoryReporting
