import Mathlib.Data.Int.Order.Basic
import Mathlib.Order.Compare
import Mathlib.Order.Lattice
import Mathlib.Order.Monotone.Basic
import RegulatoryReporting.Comparison.Calendar

/-!
# Civil Time

A clock and a calendar show a year, a month, a day, an hour, a minute and a second. This
module counts the seconds of what they show, and ties three things to this count that the
calendar does without counting.

* The day after and the day before a date, with the lengths of the months and the leap years.
* The order of what is shown, from the year down to the second.
* The time that a clock of universal time shows when another clock is ahead of it or behind
  it by less than a day. Minutes are carried to hours and hours to the day before or after.

Each of the orders is an order by places, as that of numbers by their digits: what comes
first decides, unless it is equal (`compare_eq_then`).

## Main results

* `Date.dayNumber_next`, `Date.dayNumber_previous` — the count of days goes from a date to
  the next.
* `Date.compare_dayNumber`, `CivilTime.compare_seconds` — the order by places is the order of
  the counts.
* `CivilTime.seconds_universal` — the carrying takes away the seconds of the offset.
-/

namespace RegulatoryReporting

/-! ### Orders by places -/

section Places

variable {α β : Type} [LinearOrder α] [LinearOrder β] {x y : α} {i j : β}

/-- Two quantities are compared by the place that counts most, and if this is equal, by the
rest. -/
theorem compare_eq_then {rest : Ordering} (hlt : i < j → x < y) (hgt : j < i → y < x)
    (heq : i = j → compare x y = rest) : compare x y = (compare i j).then rest := by
  rcases lt_trichotomy i j with h | h | h
  · rw [compare_lt_iff_lt.2 h, compare_lt_iff_lt.2 (hlt h), Ordering.lt_then]
  · rw [compare_eq_iff_eq.2 h, heq h, Ordering.eq_then]
  · rw [compare_gt_iff_gt.2 h, compare_gt_iff_gt.2 (hgt h), Ordering.gt_then]

/-- Two quantities that grow with their last place are compared by it. -/
theorem compare_eq_compare (hlt : i < j → x < y) (hgt : j < i → y < x) (heq : i = j → x = y) :
    compare x y = compare i j := by
  rw [compare_eq_then hlt hgt fun h => compare_eq_iff_eq.2 (heq h), Ordering.then_eq]

end Places

/-! ### The lengths of months and years -/

/-- How many days a year has. -/
def daysInYear (y : Int) : Nat := if isLeapYear y then 366 else 365

/-- A year is a leap year by its remainders. -/
theorem isLeapYear_iff {y : Int} :
    isLeapYear y = true ↔ y % 4 = 0 ∧ (y % 100 ≠ 0 ∨ y % 400 = 0) := by
  simp [isLeapYear]

/-- From the beginning of a year to that of the next the year goes by. -/
theorem daysBeforeYear_add_one (y : Int) :
    daysBeforeYear (y + 1) = daysBeforeYear y + daysInYear y := by
  rw [daysBeforeYear, daysBeforeYear, daysInYear]
  by_cases hleap : isLeapYear y = true
  · rw [if_pos hleap]
    rw [isLeapYear_iff] at hleap
    omega
  · rw [if_neg hleap]
    rw [isLeapYear_iff] at hleap
    omega

/-- A later year does not begin earlier. -/
theorem daysBeforeYear_le {y z : Int} (h : y ≤ z) : daysBeforeYear y ≤ daysBeforeYear z := by
  rw [daysBeforeYear, daysBeforeYear]
  omega

/-- The months with days are the twelve of the year. -/
theorem daysInMonth_pos_iff {y : Int} {m : Nat} : 0 < daysInMonth y m ↔ 1 ≤ m ∧ m ≤ 12 := by
  fun_cases daysInMonth y m <;> grind

/-- No month has more than 31 days. -/
theorem daysInMonth_le (y : Int) (m : Nat) : daysInMonth y m ≤ 31 := by
  fun_cases daysInMonth y m <;> grind

/-- Months begin one after the other. -/
theorem daysBeforeMonth_mono (y : Int) : Monotone (daysBeforeMonth y) :=
  monotone_nat_of_le_succ fun _ => Nat.le_add_right _ _

/-- The months make up the year. -/
theorem daysBeforeMonth_thirteen (y : Int) : daysBeforeMonth y 13 = daysInYear y := by
  simp only [daysBeforeMonth, daysInMonth, daysInYear]
  split <;> rfl

/-! ### Dates -/

namespace Date

/-- The date is one of the calendar: its day is one of its month. -/
structure InCalendar (d : Date) : Prop where
  /-- Days are counted from one. -/
  day_pos : 1 ≤ d.day
  /-- The month has the day. -/
  day_le : d.day ≤ daysInMonth d.year d.month

/-- The day after a date. -/
def next (d : Date) : Date :=
  if d.day < daysInMonth d.year d.month then ⟨d.year, d.month, d.day + 1⟩
  else if d.month < 12 then ⟨d.year, d.month + 1, 1⟩
  else ⟨d.year + 1, 1, 1⟩

/-- The day before a date. -/
def previous (d : Date) : Date :=
  if 1 < d.day then ⟨d.year, d.month, d.day - 1⟩
  else if 1 < d.month then ⟨d.year, d.month - 1, daysInMonth d.year (d.month - 1)⟩
  else ⟨d.year - 1, 12, 31⟩

/-- The order of dates: by the year, then by the month, then by the day. -/
def compare (a b : Date) : Ordering :=
  (Ord.compare a.year b.year).then
    ((Ord.compare a.month b.month).then (Ord.compare a.day b.day))

section InCalendar

variable {a b d : Date}

/-- The month is one of the twelve. -/
theorem InCalendar.month (h : d.InCalendar) : 1 ≤ d.month ∧ d.month ≤ 12 :=
  daysInMonth_pos_iff.1 (Nat.lt_of_lt_of_le h.day_pos h.day_le)

/-- The day after is one of the calendar. -/
theorem inCalendar_next (d : Date) : d.next.InCalendar := by
  rw [next]
  split
  next hday => exact ⟨Nat.le_add_left 1 _, hday⟩
  next =>
    split
    next hmonth =>
      exact ⟨Nat.le_refl 1, daysInMonth_pos_iff.2 ⟨Nat.le_add_left 1 _, hmonth⟩⟩
    next => exact ⟨Nat.le_refl 1, (by decide : 1 ≤ 31)⟩

/-- The day before is one of the calendar. -/
theorem InCalendar.previous (h : d.InCalendar) : d.previous.InCalendar := by
  obtain ⟨-, hlast⟩ := h.month
  rw [Date.previous]
  split
  next hday => exact ⟨Nat.le_sub_one_of_lt hday, (Nat.sub_le _ _).trans h.day_le⟩
  next =>
    split
    next hmonth =>
      exact ⟨daysInMonth_pos_iff.2 ⟨Nat.le_sub_one_of_lt hmonth, (Nat.sub_le _ _).trans hlast⟩,
        Nat.le_refl _⟩
    next => exact ⟨(by decide : 1 ≤ 31), Nat.le_refl 31⟩

/-- The day after counts one more. -/
theorem dayNumber_next (h : d.InCalendar) : d.next.dayNumber = d.dayNumber + 1 := by
  have hle := h.day_le
  rw [next]
  split
  next hday =>
    simp only [dayNumber]
    omega
  next hday =>
    split
    next hmonth =>
      simp only [dayNumber, daysBeforeMonth]
      omega
    next hmonth =>
      -- the last day of the year
      have hlast : d.month = 12 := by
        have := h.month
        omega
      have hyear : daysBeforeMonth d.year 12 + daysInMonth d.year 12 = daysInYear d.year :=
        daysBeforeMonth_thirteen d.year
      have hfirst : daysBeforeMonth (d.year + 1) 1 = 0 := rfl
      rw [hlast] at hday hle
      simp only [dayNumber, daysBeforeYear_add_one, hlast, hfirst]
      omega

/-- The day after the day before is the date itself. -/
theorem next_previous (h : d.InCalendar) : d.previous.next = d := by
  have hpos := h.day_pos
  have hle := h.day_le
  obtain ⟨hfirst, hlast⟩ := h.month
  obtain ⟨year, month, day⟩ := d
  dsimp only at hpos hle hfirst hlast
  rw [previous]
  split
  next hday =>
    rw [next, if_pos (by dsimp only; omega)]
    congr 1
    exact Nat.sub_add_cancel hpos
  next hday =>
    obtain rfl : day = 1 := Nat.le_antisymm (Nat.le_of_not_lt hday) hpos
    split
    next hmonth =>
      rw [next, if_neg (Nat.lt_irrefl _), if_pos (by dsimp only; omega)]
      congr 1
      exact Nat.sub_add_cancel hfirst
    next hmonth =>
      obtain rfl : month = 1 := Nat.le_antisymm (Nat.le_of_not_lt hmonth) hfirst
      simp only [next, daysInMonth, Nat.lt_irrefl, if_false, Int.sub_add_cancel]

/-- The day before counts one less. -/
theorem dayNumber_previous (h : d.InCalendar) : d.previous.dayNumber = d.dayNumber - 1 := by
  have hnext := dayNumber_next h.previous
  rw [next_previous h] at hnext
  omega

/-- A date lies in its month. -/
theorem InCalendar.lt_daysBeforeMonth (h : d.InCalendar) :
    daysBeforeMonth d.year d.month + (d.day - 1) < daysBeforeMonth d.year (d.month + 1) := by
  have hpos := h.day_pos
  have hle := h.day_le
  rw [daysBeforeMonth]
  omega

/-- A date lies in its year. -/
theorem InCalendar.lt_daysInYear (h : d.InCalendar) :
    daysBeforeMonth d.year d.month + (d.day - 1) < daysInYear d.year := by
  obtain ⟨-, hlast⟩ := h.month
  calc daysBeforeMonth d.year d.month + (d.day - 1)
      < daysBeforeMonth d.year (d.month + 1) := h.lt_daysBeforeMonth
    _ ≤ daysBeforeMonth d.year 13 := daysBeforeMonth_mono _ (Nat.succ_le_succ hlast)
    _ = daysInYear d.year := daysBeforeMonth_thirteen _

/-- The days of the date, those of its year being a natural number. -/
theorem InCalendar.dayNumber_eq (h : d.InCalendar) :
    d.dayNumber = daysBeforeYear d.year +
      ((daysBeforeMonth d.year d.month + (d.day - 1) : Nat) : Int) := by
  have hpos := h.day_pos
  rw [dayNumber]
  omega

/-- A date of an earlier year counts less. -/
theorem dayNumber_lt_of_year_lt (ha : a.InCalendar) (hb : b.InCalendar) (h : a.year < b.year) :
    a.dayNumber < b.dayNumber := by
  have hyear := daysBeforeYear_le (Int.add_one_le_of_lt h)
  have hend := ha.lt_daysInYear
  rw [daysBeforeYear_add_one] at hyear
  rw [ha.dayNumber_eq, hb.dayNumber_eq]
  omega

/-- A date of the same year and an earlier month counts less. -/
theorem dayNumber_lt_of_month_lt (ha : a.InCalendar) (hb : b.InCalendar) (hyear : a.year = b.year)
    (h : a.month < b.month) : a.dayNumber < b.dayNumber := by
  have hmonth : daysBeforeMonth a.year (a.month + 1) ≤ daysBeforeMonth a.year b.month :=
    daysBeforeMonth_mono _ h
  have hend := ha.lt_daysBeforeMonth
  rw [ha.dayNumber_eq, hb.dayNumber_eq, ← hyear]
  omega

/-- The order of dates is the order in which they are counted. -/
theorem compare_dayNumber (ha : a.InCalendar) (hb : b.InCalendar) :
    Ord.compare a.dayNumber b.dayNumber = a.compare b := by
  rw [compare]
  refine compare_eq_then (dayNumber_lt_of_year_lt ha hb) (dayNumber_lt_of_year_lt hb ha)
    fun hyear => ?_
  refine compare_eq_then (dayNumber_lt_of_month_lt ha hb hyear)
    (dayNumber_lt_of_month_lt hb ha hyear.symm) fun hmonth => ?_
  rw [dayNumber, dayNumber, hyear, hmonth]
  exact compare_eq_compare (by omega) (by omega) (by omega)

end InCalendar

end Date

/-! ### Dates and times -/

/-- What a clock and a calendar show. -/
structure CivilTime where
  /-- The date. -/
  date : Date
  /-- The hour, from zero. -/
  hour : Fin 24
  /-- The minute. -/
  minute : Fin 60
  /-- The second. -/
  second : Fin 60
  /-- The date is one of the calendar. -/
  inCalendar : date.InCalendar

/-- How far a clock is ahead of universal time or behind it: less than a day, in whole
minutes. -/
structure UtcOffset where
  /-- Whether the clock is behind universal time. -/
  behind : Bool
  /-- The hours. -/
  hours : Fin 24
  /-- The minutes beside the hours. -/
  minutes : Fin 60

/-- The minutes that the clock is ahead, negative if it is behind. -/
def UtcOffset.total (o : UtcOffset) : Int :=
  if o.behind then -(60 * o.hours.val + o.minutes.val : Int)
  else 60 * o.hours.val + o.minutes.val

/-- A clock is off by less than a day. -/
theorem UtcOffset.total_bounds (o : UtcOffset) : -1440 < o.total ∧ o.total < 1440 := by
  have hhours := o.hours.isLt
  have hminutes := o.minutes.isLt
  rw [total]
  split <;> omega

namespace CivilTime

/-- The midnight that begins a date. -/
def midnight (d : Date) (h : d.InCalendar) : CivilTime where
  date := d
  hour := 0
  minute := 0
  second := 0
  inCalendar := h

/-- The seconds from the midnight that begins year one. -/
def seconds (t : CivilTime) : Int :=
  86400 * t.date.dayNumber + 3600 * t.hour.val + 60 * t.minute.val + t.second.val

/-- The order of what is shown: by the date, then by the hour, by the minute and by the
second. -/
def compare (a b : CivilTime) : Ordering :=
  (a.date.compare b.date).then ((Ord.compare a.hour.val b.hour.val).then
    ((Ord.compare a.minute.val b.minute.val).then (Ord.compare a.second.val b.second.val)))

/-- The order of what is shown is the order in which the seconds are counted. -/
theorem compare_seconds (a b : CivilTime) :
    Ord.compare a.seconds b.seconds = a.compare b := by
  have hhour := a.hour.isLt
  have hhour' := b.hour.isLt
  have hminute := a.minute.isLt
  have hminute' := b.minute.isLt
  have hsecond := a.second.isLt
  have hsecond' := b.second.isLt
  rw [compare, ← Date.compare_dayNumber a.inCalendar b.inCalendar]
  simp only [seconds]
  refine compare_eq_then (by omega) (by omega) fun hday => ?_
  refine compare_eq_then (by omega) (by omega) fun hhours => ?_
  refine compare_eq_then (by omega) (by omega) fun hminutes => ?_
  exact compare_eq_compare (by omega) (by omega) (by omega)

/-! ### The time that a clock of universal time shows -/

/-- The minutes since midnight once those of the offset are taken away: they are negative on
the day before, and a day's worth or more on the day after. -/
def universalMinutes (t : CivilTime) (o : UtcOffset) : Int :=
  60 * t.hour.val + t.minute.val - o.total

/-- The date once the offset is taken away. -/
def universalDate (t : CivilTime) (o : UtcOffset) : Date :=
  if t.universalMinutes o < 0 then t.date.previous
  else if t.universalMinutes o < 1440 then t.date
  else t.date.next

/-- The date once the offset is taken away is one of the calendar. -/
theorem inCalendar_universalDate (t : CivilTime) (o : UtcOffset) :
    (t.universalDate o).InCalendar := by
  rw [universalDate]
  split
  next => exact t.inCalendar.previous
  next =>
    split
    next => exact t.inCalendar
    next => exact t.date.inCalendar_next

/-- The hours of the day once the offset is taken away. -/
theorem universalHour_lt (t : CivilTime) (o : UtcOffset) :
    (t.universalMinutes o % 1440 / 60).toNat < 24 := by
  omega

/-- The minutes of the hour once the offset is taken away. -/
theorem universalMinute_lt (t : CivilTime) (o : UtcOffset) :
    (t.universalMinutes o % 60).toNat < 60 := by
  omega

/-- What a clock of universal time shows when a clock with an offset shows `t`: whole hours
are carried out of the minutes, and whole days out of the hours. -/
def universal (t : CivilTime) (o : UtcOffset) : CivilTime where
  date := t.universalDate o
  hour := ⟨(t.universalMinutes o % 1440 / 60).toNat, t.universalHour_lt o⟩
  minute := ⟨(t.universalMinutes o % 60).toNat, t.universalMinute_lt o⟩
  second := t.second
  inCalendar := t.inCalendar_universalDate o

/-- Where the minutes are carried to another day, this day is the one before or after. -/
theorem dayNumber_universalDate (t : CivilTime) (o : UtcOffset) :
    (t.universalDate o).dayNumber = t.date.dayNumber + t.universalMinutes o / 1440 := by
  obtain ⟨hlow, hhigh⟩ := o.total_bounds
  have hhour := t.hour.isLt
  have hminute := t.minute.isLt
  have hminutes : t.universalMinutes o = 60 * t.hour.val + t.minute.val - o.total := rfl
  rw [universalDate]
  split
  next hbefore =>
    rw [Date.dayNumber_previous t.inCalendar]
    omega
  next hbefore =>
    split
    next hafter => omega
    next hafter =>
      rw [Date.dayNumber_next t.inCalendar]
      omega

/-- The carrying takes away the seconds of the offset, across the ends of days, months and
years. -/
theorem seconds_universal (t : CivilTime) (o : UtcOffset) :
    (t.universal o).seconds = t.seconds - 60 * o.total := by
  have hday := t.dayNumber_universalDate o
  have hminutes : t.universalMinutes o = 60 * t.hour.val + t.minute.val - o.total := rfl
  simp only [seconds, universal]
  omega

end CivilTime

end RegulatoryReporting
