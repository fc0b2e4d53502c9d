/-!
# Calendar Dates

The proleptic Gregorian calendar, with astronomical years (year zero comes before year
one). A date is counted in days, day zero being the first of January of year one.

## Main results

* `Date.isValid_iff` — a date is valid when its month and its day exist.
-/

namespace RegulatoryReporting

/-- A year, a month from one and a day from one. -/
structure Date where
  /-- The year, counted astronomically. -/
  year : Int
  /-- The month, from one to twelve. -/
  month : Nat
  /-- The day of the month, from one. -/
  day : Nat
  deriving DecidableEq, Repr

/-- Whether a year has a twenty-ninth of February. -/
def isLeapYear (y : Int) : Bool :=
  y % 4 == 0 && (y % 100 != 0 || y % 400 == 0)

/-- How many days a month has; zero for what is no month. -/
def daysInMonth (y : Int) : Nat → Nat
  | 1 => 31
  | 2 => if isLeapYear y then 29 else 28
  | 3 => 31
  | 4 => 30
  | 5 => 31
  | 6 => 30
  | 7 => 31
  | 8 => 31
  | 9 => 30
  | 10 => 31
  | 11 => 30
  | 12 => 31
  | _ => 0

/-- How many days of a year lie before a month. -/
def daysBeforeMonth (y : Int) : Nat → Nat
  | 0 => 0
  | m + 1 => daysBeforeMonth y m + daysInMonth y m

/-- How many days lie between the first of January of year one and that of a year. -/
def daysBeforeYear (y : Int) : Int :=
  let n := y - 1
  365 * n + n / 4 - n / 100 + n / 400

namespace Date

/-- The least year of a date. -/
def minYear : Int := -262143

/-- The greatest year of a date. -/
def maxYear : Int := 262142

/-- Whether the month and the day exist in the year. -/
def isValid (d : Date) : Bool :=
  1 ≤ d.day && d.day ≤ daysInMonth d.year d.month &&
    minYear ≤ d.year && d.year ≤ maxYear

/-- A date is valid when its month and its day exist and its year is in range. -/
theorem isValid_iff {d : Date} :
    d.isValid = true ↔
      1 ≤ d.day ∧ d.day ≤ daysInMonth d.year d.month ∧ -262143 ≤ d.year ∧ d.year ≤ 262142 := by
  simp only [isValid, Bool.and_eq_true, decide_eq_true_eq, and_assoc]
  rfl

/-- The days from the first of January of year one. -/
def dayNumber (d : Date) : Int :=
  daysBeforeYear d.year + daysBeforeMonth d.year d.month + (d.day - 1 : Int)

end Date

end RegulatoryReporting
