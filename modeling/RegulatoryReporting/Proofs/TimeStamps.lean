import Mathlib.Data.List.TakeWhile
import RegulatoryReporting.Comparison.Instant
import RegulatoryReporting.Proofs.CivilTime
import RegulatoryReporting.Proofs.NumberText

/-!
# Time Stamps

A date and a time is written in four forms (`TimeStamp`): with the zone of the clock, which is
the letter of universal time or an offset, without a zone, without the seconds too, and as a
date alone. Every number has its full width and zeros before it, so that the year has four
digits and everything else two. With a zone, the separator, the letter and the sign have
several spellings.

Reading tries four forms one after the other, and the later ones take numbers with fewer
digits. A time stamp is read by the form that it is written in, since the ones before it miss
something that is not there: the zone, the seconds or the time. What is read is the instant
that a clock of universal time shows (`TimeStamp.universal`).

## Main results

* `Instant.readDate?_append`, `Instant.readMinutes?_append` — reading the parts in front,
  whatever follows them.
* `Instant.readStamp?_zoned` — reading a date and a time with its zone.
* `TimeStamp.ofText?_text` — a time stamp is read as its instant.
-/

namespace RegulatoryReporting

/-! ### Numbers of a fixed width -/

/-- The digits of a number, with zeros before them up to a width. -/
def paddedDigits (width n : Nat) : List Char := (Nat.toDigits 10 n).leftpad width '0'

/-- What is written are digits. -/
theorem isDigits_paddedDigits (width n : Nat) : IsDigits (paddedDigits width n) :=
  (isDigits_replicate _).append (isDigits_toDigits n)

/-- They write the number. -/
@[simp] theorem digitsValue_paddedDigits (width n : Nat) :
    digitsValue (paddedDigits width n) = n := by
  rw [paddedDigits, List.leftpad, digitsValue_replicate_append, digitsValue_toDigits]

/-- They fill the width, if the number does not need more. -/
theorem length_paddedDigits {n : Nat} (width : Nat) (hwidth : 0 < width) (h : n < 10 ^ width) :
    (paddedDigits width n).length = width := by
  rw [paddedDigits, List.length_leftpad]
  exact Nat.max_eq_left ((Nat.length_toDigits_le_iff (by decide) hwidth).2 h)

/-- They begin with a digit. -/
theorem exists_paddedDigits_eq_cons (width n : Nat) :
    ∃ c cs, paddedDigits width n = c :: cs ∧ c.isDigit = true := by
  cases hdigits : paddedDigits width n with
  | nil => exact absurd (List.append_eq_nil_iff.1 hdigits).2 Nat.toDigits_ne_nil
  | cons c cs =>
    refine ⟨c, cs, rfl, isDigits_paddedDigits width n c ?_⟩
    rw [hdigits]
    exact List.mem_cons_self

/-- The text of a number, with zeros before it up to a width. -/
def fixedWidth (width n : Nat) : String := String.ofList (paddedDigits width n)

@[simp] theorem toList_fixedWidth (width n : Nat) :
    (fixedWidth width n).toList = paddedDigits width n := String.toList_ofList

/-! ### The texts -/

/-- The text of a date. -/
def Date.text (d : Date) : String :=
  fixedWidth 4 d.year.toNat ++ "-" ++ fixedWidth 2 d.month ++ "-" ++ fixedWidth 2 d.day

namespace CivilTime

/-- The text of an hour and a minute. -/
def minuteClock (t : CivilTime) : String := fixedWidth 2 t.hour ++ ":" ++ fixedWidth 2 t.minute

/-- The text of an hour, a minute and a second. -/
def clock (t : CivilTime) : String := t.minuteClock ++ ":" ++ fixedWidth 2 t.second

/-- The text of a date and a time. -/
def text (t : CivilTime) : String := t.date.text ++ "T" ++ t.clock

end CivilTime

/-- What may stand between a date and a time. -/
inductive Separator
  /-- The large letter. -/
  | large
  /-- The small letter. -/
  | small
  /-- A blank. -/
  | blank

/-- The text of a separator. -/
def Separator.text : Separator → String
  | large => "T"
  | small => "t"
  | blank => " "

/-- What may follow a date and a time. -/
inductive Zone
  /-- The letter of universal time, large or small. -/
  | letter (large : Bool)
  /-- An offset; the sign of a clock that is behind is a hyphen or a minus sign. -/
  | offset (o : UtcOffset) (hyphen : Bool)

namespace Zone

/-- The text of a zone. -/
def text : Zone → String
  | letter large => if large then "Z" else "z"
  | offset o hyphen => (if o.behind then if hyphen then "-" else "−" else "+") ++
      fixedWidth 2 o.hours ++ ":" ++ fixedWidth 2 o.minutes

/-- The minutes that a clock is ahead of universal time. -/
def total : Zone → Int
  | letter _ => 0
  | offset o _ => o.total

end Zone

/-- The forms in which a date, or a date and a time, is written. -/
inductive TimeStamp
  /-- A date and a time with the zone of the clock. -/
  | zoned (separator : Separator) (t : CivilTime) (zone : Zone)
  /-- A date and a time without a zone, which is one of universal time. -/
  | plain (t : CivilTime)
  /-- The same without the seconds, of which there are none. -/
  | minutes (t : CivilTime) (h : t.second.val = 0)
  /-- A date alone, which stands for its midnight. -/
  | date (d : Date) (h : d.InCalendar)

namespace TimeStamp

/-- The text of a time stamp. -/
def text : TimeStamp → String
  | zoned separator t zone => t.date.text ++ separator.text ++ t.clock ++ zone.text
  | plain t => t.text
  | minutes t _ => t.date.text ++ "T" ++ t.minuteClock
  | date d _ => d.text

/-- The date and the time that are written. -/
def written : TimeStamp → CivilTime
  | zoned _ t _ => t
  | plain t => t
  | minutes t _ => t
  | date d h => .midnight d h

/-- The date and the time that a clock of universal time shows. -/
def universal : TimeStamp → CivilTime
  | zoned _ t (.offset o _) => t.universal o
  | stamp => stamp.written

end TimeStamp

/-- A year of four digits, zero left out. -/
def Date.InRange (d : Date) : Prop := 1 ≤ d.year ∧ d.year ≤ 9999

/-- The year that is written has four digits. -/
def TimeStamp.InRange (s : TimeStamp) : Prop := s.written.date.InRange

/-! ### The ends of the texts -/

/-- The first character of a text is not blank. -/
def BeginsInked (s : String) : Prop :=
  ∃ c cs, s.toList = c :: cs ∧ Text.isWhiteSpace c = false

/-- The last character of a text is not blank. -/
def EndsInked (s : String) : Prop :=
  ∃ cs c, s.toList = cs ++ [c] ∧ Text.isWhiteSpace c = false

/-- What begins without a blank does so whatever follows it. -/
theorem BeginsInked.append {s : String} (h : BeginsInked s) (t : String) :
    BeginsInked (s ++ t) := by
  obtain ⟨c, cs, hs, hc⟩ := h
  exact ⟨c, cs ++ t.toList, by rw [String.toList_append, hs, List.cons_append], hc⟩

/-- What ends without a blank does so whatever is before it. -/
theorem EndsInked.append {t : String} (h : EndsInked t) (s : String) : EndsInked (s ++ t) := by
  obtain ⟨cs, c, ht, hc⟩ := h
  exact ⟨s.toList ++ cs, c, by rw [String.toList_append, ht, List.append_assoc], hc⟩

/-- There is nothing to trim between ends that are not blank. -/
theorem trim_eq_self {s : String} (hfirst : BeginsInked s) (hlast : EndsInked s) :
    Text.trim s = s := by
  obtain ⟨c, cs, hs, hc⟩ := hfirst
  obtain ⟨ds, d, hs', hd⟩ := hlast
  rw [Text.trim, Text.trimList_of_trimmed, String.ofList_toList]
  · rw [hs]
    rintro _ ⟨⟩
    exact hc
  · rw [hs', List.getLast?_concat]
    rintro _ ⟨⟩
    exact hd

/-- A number begins with a digit. -/
theorem beginsInked_fixedWidth (width n : Nat) : BeginsInked (fixedWidth width n) := by
  obtain ⟨c, cs, hdigits, hc⟩ := exists_paddedDigits_eq_cons width n
  exact ⟨c, cs, by rw [toList_fixedWidth, hdigits], isWhiteSpace_eq_false_of_isDigit hc⟩

/-- A number ends with a digit. -/
theorem endsInked_fixedWidth (width n : Nat) : EndsInked (fixedWidth width n) := by
  have hdigits := isDigits_paddedDigits width n
  rw [EndsInked, toList_fixedWidth]
  rcases List.eq_nil_or_concat' (paddedDigits width n) with hnil | ⟨cs, c, hconcat⟩
  · obtain ⟨c, cs, hcons, -⟩ := exists_paddedDigits_eq_cons width n
    rw [hnil] at hcons
    cases hcons
  · rw [hconcat] at hdigits
    exact ⟨cs, c, hconcat, isWhiteSpace_eq_false_of_isDigit (hdigits c (by simp))⟩

/-- A date begins with its year. -/
theorem Date.beginsInked_text (d : Date) : BeginsInked d.text :=
  ((((beginsInked_fixedWidth 4 _).append _).append _).append _).append _

/-- A zone ends with its letter or its minutes. -/
theorem Zone.endsInked_text (zone : Zone) : EndsInked zone.text := by
  cases zone with
  | letter large =>
    cases large with
    | true => exact ⟨[], 'Z', rfl, by decide⟩
    | false => exact ⟨[], 'z', rfl, by decide⟩
  | offset o hyphen => exact (endsInked_fixedWidth 2 _).append _

/-- There is nothing to trim of a time stamp. -/
theorem TimeStamp.trim_text (s : TimeStamp) : Text.trim s.text = s.text := by
  cases s with
  | zoned separator t zone =>
    exact trim_eq_self (((t.date.beginsInked_text.append _).append _).append _)
      (zone.endsInked_text.append _)
  | plain t =>
    exact trim_eq_self ((t.date.beginsInked_text.append _).append _)
      (((endsInked_fixedWidth 2 _).append _).append _)
  | minutes t _ =>
    exact trim_eq_self ((t.date.beginsInked_text.append _).append _)
      (((endsInked_fixedWidth 2 _).append _).append _)
  | date d _ => exact trim_eq_self d.beginsInked_text ((endsInked_fixedWidth 2 _).append _)

/-! ### Reading numbers of a fixed width -/

namespace Instant

/-- As many digits as there may be are read, whatever follows them. -/
theorem readDigits?_paddedDigits {least width n : Nat} (hwidth : 0 < width) (hleast : least ≤ width)
    (h : n < 10 ^ width) (rest : List Char) :
    readDigits? least width (paddedDigits width n ++ rest) = some (n, rest) := by
  have hlength := length_paddedDigits width hwidth h
  have hdigits : (paddedDigits width n).takeWhile Char.isDigit = paddedDigits width n :=
    List.takeWhile_eq_self_iff.2 (isDigits_paddedDigits width n)
  simp only [readDigits?, List.take_left' hlength, hdigits, hlength, digitsValue_paddedDigits,
    if_neg (Nat.not_lt.2 hleast), List.drop_left' hlength]

/-- There are no blanks before a digit. -/
theorem dropWhile_paddedDigits (width n : Nat) (rest : List Char) :
    (paddedDigits width n ++ rest).dropWhile Text.isWhiteSpace = paddedDigits width n ++ rest := by
  obtain ⟨c, cs, hdigits, hc⟩ := exists_paddedDigits_eq_cons width n
  rw [hdigits, List.cons_append, List.dropWhile_cons_of_neg]
  rw [isWhiteSpace_eq_false_of_isDigit hc]
  exact Bool.false_ne_true

/-- A number of two digits is read where it must have two. -/
theorem readDigits?_two {n : Nat} (h : n < 100) (rest : List Char) :
    readDigits? 2 2 (paddedDigits 2 n ++ rest) = some (n, rest) :=
  readDigits?_paddedDigits (by decide) (by decide) h rest

/-- Two digits are read where nothing follows them. -/
theorem readDigits?_two_nil {n : Nat} (h : n < 100) :
    readDigits? 2 2 (paddedDigits 2 n) = some (n, []) := by
  simpa using readDigits?_two h []

/-- A number of two digits is read where it may have fewer. -/
theorem readLenient?_paddedDigits {n : Nat} (h : n < 100) (rest : List Char) :
    readLenient? (paddedDigits 2 n ++ rest) = some (n, rest) := by
  rw [readLenient?, dropWhile_paddedDigits]
  exact readDigits?_paddedDigits (by decide) (by decide) h rest

/-- A year of four digits is read where it may have a sign. -/
theorem readYear?_paddedDigits {n : Nat} (h : n < 10000) (rest : List Char) :
    readYear? (paddedDigits 4 n ++ rest) = some ((n : Int), rest) := by
  obtain ⟨c, cs, hdigits, hc⟩ := exists_paddedDigits_eq_cons 4 n
  have hread : readDigits? 1 4 (paddedDigits 4 n ++ rest) = some (n, rest) :=
    readDigits?_paddedDigits (by decide) (by decide) h rest
  rw [readYear?, dropWhile_paddedDigits]
  rw [hdigits, List.cons_append] at hread ⊢
  split
  next heq =>
    obtain ⟨rfl, -⟩ := List.cons.inj heq
    exact absurd hc (by decide)
  next heq =>
    obtain ⟨rfl, -⟩ := List.cons.inj heq
    exact absurd hc (by decide)
  next => rw [hread, Option.map_some]

end Instant

/-! ### Reading dates and times -/

/-- The characters of a date. -/
theorem Date.toList_text (d : Date) :
    d.text.toList = paddedDigits 4 d.year.toNat ++ '-' ::
      (paddedDigits 2 d.month ++ '-' :: paddedDigits 2 d.day) := by
  simp [text]

/-- The characters of an hour and a minute. -/
theorem CivilTime.toList_minuteClock (t : CivilTime) :
    t.minuteClock.toList = paddedDigits 2 t.hour ++ ':' :: paddedDigits 2 t.minute := by
  simp [minuteClock]

/-- The characters of an hour, a minute and a second. -/
theorem CivilTime.toList_clock (t : CivilTime) :
    t.clock.toList = t.minuteClock.toList ++ ':' :: paddedDigits 2 t.second := by
  simp [clock]

/-- The characters of a date and a time. -/
theorem CivilTime.toList_text (t : CivilTime) :
    t.text.toList = t.date.text.toList ++ 'T' :: t.clock.toList := by
  simp [text]

section Parts

variable {d : Date} (h : d.InCalendar) (hrange : d.InRange)

include h

/-- The month has two digits. -/
theorem Date.InCalendar.month_lt : d.month < 100 := by
  have := h.month
  omega

/-- The day has two digits. -/
theorem Date.InCalendar.day_lt : d.day < 100 := by
  have := h.day_le
  have := daysInMonth_le d.year d.month
  omega

include hrange

/-- The date is one that an instant can have. -/
theorem Date.InCalendar.isValid : d.isValid = true := by
  obtain ⟨hfirst, hlast⟩ := hrange
  exact Date.isValid_iff.2 ⟨h.day_pos, h.day_le, by omega, by omega⟩

end Parts

/-- The hour, the minute and the second have two digits. -/
theorem CivilTime.fields_lt (t : CivilTime) :
    t.hour.val < 100 ∧ t.minute.val < 100 ∧ t.second.val < 100 :=
  ⟨t.hour.isLt.trans (by decide), t.minute.isLt.trans (by decide), t.second.isLt.trans (by decide)⟩

/-- The year has four digits. -/
theorem Date.InRange.toNat_year {d : Date} (h : d.InRange) :
    (d.year.toNat : Int) = d.year ∧ d.year.toNat < 10000 := by
  obtain ⟨hfirst, hlast⟩ := h
  omega

namespace Instant

/-- The text of a date is read where numbers may have fewer digits. -/
theorem readDate?_append {d : Date} (h : d.InCalendar) (hrange : d.InRange) (rest : List Char) :
    readDate? (d.text.toList ++ rest) = some (d, rest) := by
  obtain ⟨hyear, hfour⟩ := hrange.toNat_year
  simp only [readDate?, Date.toList_text, List.append_assoc, List.cons_append,
    readYear?_paddedDigits hfour, readLenient?_paddedDigits h.month_lt,
    readLenient?_paddedDigits h.day_lt, afterChar?, Option.bind_eq_bind, Option.bind_some,
    beq_self_eq_true, if_true, Option.pure_def, hyear]

/-- The text of a date is read where nothing follows it. -/
theorem readDate?_text {d : Date} (h : d.InCalendar) (hrange : d.InRange) :
    readDate? d.text.toList = some (d, []) := by
  simpa using readDate?_append h hrange []

variable {t : CivilTime}

/-- What a clock and a calendar show is an instant, once the offset is taken away. -/
theorem ofParts?_civilTime (hrange : t.date.InRange) (offset : Int) :
    ofParts? t.date ⟨t.hour, t.minute, t.second, 0⟩ offset =
      some ⟨t.seconds - 60 * offset, 0⟩ := by
  have hhour := t.hour.isLt
  have hminute := t.minute.isLt
  have hsecond := t.second.isLt
  have hdate := t.inCalendar.isValid hrange
  have htime : TimeOfDay.isValid ⟨t.hour, t.minute, t.second, 0⟩ = true := by
    simp only [TimeOfDay.isValid, Bool.and_eq_true, decide_eq_true_eq]
    omega
  have hleap : t.second.val ≠ 60 := by omega
  have hmin : min (t.second.val : Int) 59 = t.second.val := by omega
  simp [ofParts?, hdate, htime, hleap, hmin, CivilTime.seconds]

/-- What a clock of universal time and a calendar show is an instant. -/
theorem ofParts?_civilTime_zero (hrange : t.date.InRange) :
    ofParts? t.date ⟨t.hour, t.minute, t.second, 0⟩ 0 = some ⟨t.seconds, 0⟩ := by
  rw [ofParts?_civilTime hrange, Int.mul_zero, Int.sub_zero]

/-- A date, an hour and a minute are read where numbers may have fewer digits. -/
theorem readMinutes?_append (hrange : t.date.InRange) (rest : List Char) :
    readMinutes? (t.date.text.toList ++ 'T' :: (t.minuteClock.toList ++ rest)) =
      some (t.date, t.hour.val, t.minute.val, rest) := by
  obtain ⟨hhour, hminute, -⟩ := t.fields_lt
  simp only [readMinutes?, CivilTime.toList_minuteClock, List.append_assoc, List.cons_append,
    readDate?_append t.inCalendar hrange, readLenient?_paddedDigits hhour,
    readLenient?_paddedDigits hminute, afterChar?, Option.bind_eq_bind, Option.bind_some,
    beq_self_eq_true, if_true, Option.pure_def]

/-- A date, an hour and a minute are read where nothing follows them. -/
theorem readMinutes?_minuteClock (hrange : t.date.InRange) :
    readMinutes? (t.date.text.toList ++ 'T' :: t.minuteClock.toList) =
      some (t.date, t.hour.val, t.minute.val, []) := by
  simpa using readMinutes?_append hrange []

/-- A date and a time without a zone is read where it must have seconds. -/
theorem readLocalSeconds?_text (hrange : t.date.InRange) :
    readLocalSeconds? t.text.toList = some ⟨t.seconds, 0⟩ := by
  obtain ⟨-, -, hsecond⟩ := t.fields_lt
  have hread : readLenient? (paddedDigits 2 t.second) = some (t.second.val, []) := by
    simpa using readLenient?_paddedDigits hsecond []
  simp only [readLocalSeconds?, CivilTime.toList_text, CivilTime.toList_clock,
    readMinutes?_append hrange, hread, afterChar?, readOptionalFraction?, Option.bind_eq_bind,
    Option.bind_some, beq_self_eq_true, if_true, List.isEmpty_nil, Bool.not_true,
    Bool.false_eq_true, if_false, ofParts?_civilTime_zero hrange]

/-- Seconds are missed where they are not written. -/
theorem readLocalSeconds?_minuteClock (hrange : t.date.InRange) :
    readLocalSeconds? (t.date.text.toList ++ 'T' :: t.minuteClock.toList) = none := by
  simp [readLocalSeconds?, readMinutes?_minuteClock hrange, afterChar?]

/-- A date and a time without a zone is read where it must have no seconds. -/
theorem readLocalMinutes?_minuteClock (hrange : t.date.InRange) (hsecond : t.second.val = 0) :
    readLocalMinutes? (t.date.text.toList ++ 'T' :: t.minuteClock.toList) =
      some ⟨t.seconds, 0⟩ := by
  have hparts := ofParts?_civilTime_zero hrange
  rw [hsecond] at hparts
  simp [readLocalMinutes?, readMinutes?_minuteClock hrange, hparts]

variable {d : Date}

/-- A time is missed where none is written. -/
theorem readMinutes?_text (h : d.InCalendar) (hrange : d.InRange) :
    readMinutes? d.text.toList = none := by
  simp [readMinutes?, readDate?_text h hrange, afterChar?]

/-- A date alone is read where nothing follows it. -/
theorem readMidnight?_text (h : d.InCalendar) (hrange : d.InRange) :
    readMidnight? d.text.toList = some ⟨(CivilTime.midnight d h).seconds, 0⟩ := by
  simp only [readMidnight?, readDate?_text h hrange, Option.bind_eq_bind, Option.bind_some,
    List.isEmpty_nil, Bool.not_true, Bool.false_eq_true, if_false]
  exact ofParts?_civilTime_zero (t := .midnight d h) hrange

/-! ### Reading a time stamp -/

/-- A zone is read. -/
theorem readOffset?_text (zone : Zone) : readOffset? zone.text.toList = some (zone.total, []) := by
  cases zone with
  | letter large => cases large <;> rfl
  | offset o hyphen =>
    have hhours := o.hours.isLt
    have hminutes := o.minutes.isLt
    have hfields : o.hours.val < 100 ∧ o.minutes.val < 100 := by omega
    have hlimits : o.minutes.val ≤ 59 ∧ o.hours.val ≤ 23 := by omega
    rw [Zone.text, Zone.total, UtcOffset.total]
    cases o.behind <;> cases hyphen <;>
      simp [readOffset?, readDigits?_two hfields.1, readDigits?_two_nil hfields.2, afterChar?,
        hlimits]

/-- A fraction is left out where no point is written. -/
theorem readOptionalFraction?_of_head? {cs : List Char} (h : cs.head? ≠ some '.') :
    readOptionalFraction? cs = some (0, cs) := by
  rw [readOptionalFraction?]
  rintro rest rfl
  exact h rfl

/-- The instant of a date and of the time and the offset that follow it: what reading a time
stamp does once it has the date. -/
def readClock? (date : Date) (cs : List Char) : Option Instant := do
  let (hour, cs) ← readDigits? 2 2 cs
  let cs ← afterChar? ':' cs
  let (minute, cs) ← readDigits? 2 2 cs
  let cs ← afterChar? ':' cs
  let (second, cs) ← readDigits? 2 2 cs
  let (fraction, cs) ← readOptionalFraction? cs
  let (offset, cs) ← readOffset? cs
  if !cs.isEmpty then none
  ofParts? date ⟨hour, minute, second, fraction⟩ offset

/-- What follows the letter or the blank between a date and a time. -/
def afterSeparator? : List Char → Option (List Char)
  | c :: rest => if c == 'T' || c == 't' || c == ' ' then some rest else none
  | [] => none

/-- A time stamp is a date and, after a letter or a blank, a time with its offset. -/
theorem readStamp?_eq (cs : List Char) :
    readStamp? cs = (do
      let (year, cs) ← readDigits? 4 4 cs
      let cs ← afterChar? '-' cs
      let (month, cs) ← readDigits? 2 2 cs
      let cs ← afterChar? '-' cs
      let (day, cs) ← readDigits? 2 2 cs
      let cs ← match cs with
        | c :: rest => if c == 'T' || c == 't' || c == ' ' then some rest else none
        | [] => none
      readClock? ⟨year, month, day⟩ cs) := rfl

/-- In a time stamp the text of a date is read. -/
theorem readStamp?_date {d : Date} (h : d.InCalendar) (hrange : d.InRange) (cs : List Char) :
    readStamp? (d.text.toList ++ cs) = (afterSeparator? cs).bind (readClock? d) := by
  obtain ⟨hyear, hfour⟩ := hrange.toNat_year
  have hread : ∀ rest, readDigits? 4 4 (paddedDigits 4 d.year.toNat ++ rest) =
      some (d.year.toNat, rest) :=
    readDigits?_paddedDigits (by decide) (by decide) hfour
  simp only [readStamp?_eq, Date.toList_text, List.append_assoc, List.cons_append, hread,
    readDigits?_two h.month_lt, readDigits?_two h.day_lt, afterChar?, hyear, Option.bind_eq_bind,
    Option.bind_some, beq_self_eq_true, if_true]
  cases cs with
  | nil => rfl
  | cons c rest =>
    dsimp only
    rw [afterSeparator?]
    split <;> rfl

/-- A time is missed after a date that is written alone. -/
theorem readStamp?_dateText {d : Date} (h : d.InCalendar) (hrange : d.InRange) :
    readStamp? d.text.toList = none := by
  simpa [afterSeparator?] using readStamp?_date h hrange []

section Stamp

variable (hrange : t.date.InRange)

include hrange

/-- A time is read with full widths, and then the offset after it. -/
theorem readClock?_append {zone : List Char} (hzone : zone.head? ≠ some '.') :
    readClock? t.date (t.clock.toList ++ zone) = (readOffset? zone).bind fun read =>
      if read.2.isEmpty then some ⟨t.seconds - 60 * read.1, 0⟩ else none := by
  obtain ⟨hhour, hminute, hsecond⟩ := t.fields_lt
  simp only [readClock?, CivilTime.toList_clock, CivilTime.toList_minuteClock, List.append_assoc,
    List.cons_append, readDigits?_two hhour, readDigits?_two hminute, readDigits?_two hsecond,
    readOptionalFraction?_of_head? hzone, afterChar?, Option.bind_eq_bind, Option.bind_some,
    beq_self_eq_true, if_true, ofParts?_civilTime hrange]
  congr 1
  funext read
  obtain ⟨offset, rest⟩ := read
  cases rest <;> rfl

/-- A date and a time with its zone is an instant. -/
theorem readStamp?_zoned (separator : Separator) (zone : Zone) :
    readStamp? (t.date.text.toList ++
      (separator.text.toList ++ (t.clock.toList ++ zone.text.toList))) =
        some ⟨t.seconds - 60 * zone.total, 0⟩ := by
  have hread := readOffset?_text zone
  have hseparator : ∀ cs, afterSeparator? (separator.text.toList ++ cs) = some cs := by
    cases separator <;> exact fun _ => rfl
  have hpoint : zone.text.toList.head? ≠ some '.' := by
    intro h
    obtain ⟨rest, hzone⟩ := List.head?_eq_some_iff.1 h
    rw [hzone] at hread
    cases hread
  rw [readStamp?_date t.inCalendar hrange, hseparator, Option.bind_some,
    readClock?_append hrange hpoint, hread]
  rfl

/-- A zone is missed after a date and a time without one. -/
theorem readStamp?_text : readStamp? t.text.toList = none := by
  have hread : readClock? t.date (t.clock.toList ++ []) = _ := readClock?_append hrange nofun
  have hseparator : afterSeparator? ('T' :: t.clock.toList) = some t.clock.toList := rfl
  rw [List.append_nil] at hread
  rw [CivilTime.toList_text, readStamp?_date t.inCalendar hrange, hseparator, Option.bind_some,
    hread]
  rfl

/-- Seconds are missed before a zone. -/
theorem readStamp?_minuteClock :
    readStamp? (t.date.text.toList ++ 'T' :: t.minuteClock.toList) = none := by
  obtain ⟨hhour, hminute, -⟩ := t.fields_lt
  rw [readStamp?_date t.inCalendar hrange, afterSeparator?]
  simp only [readClock?, CivilTime.toList_minuteClock, readDigits?_two hhour,
    readDigits?_two_nil hminute, afterChar?, Bool.true_or, Option.bind_eq_bind, Option.bind_some,
    Option.bind_none, beq_self_eq_true, if_true]

end Stamp

/-! ### Reading a text -/

/-- A character takes a byte at least. -/
theorem length_le_size_utf8Encode (cs : List Char) : cs.length ≤ cs.utf8Encode.size := by
  induction cs with
  | nil => exact Nat.zero_le _
  | cons c cs ih =>
    have hfirst := c.utf8Size_pos
    rw [List.utf8Encode_cons, List.utf8Encode_singleton, ByteArray.size_append,
      List.size_toByteArray, String.length_utf8EncodeChar, List.length_cons]
    omega

/-- A text of ten characters and without blanks around it is read in its four forms. -/
theorem ofText?_of_trim_eq_self {s : String} (hlength : 10 ≤ s.toList.length)
    (htrim : Text.trim s = s) :
    ofText? s = (readStamp? s.toList).orElse fun _ =>
      (readLocalSeconds? s.toList).orElse fun _ =>
        (readLocalMinutes? s.toList).orElse fun _ => readMidnight? s.toList := by
  have hsize : ¬ s.utf8ByteSize < leastLength := by
    have hbytes := length_le_size_utf8Encode s.toList
    rw [String.utf8Encode_toList] at hbytes
    exact Nat.not_lt.2 (hlength.trans hbytes)
  simp only [ofText?, htrim, if_neg hsize]

end Instant

namespace TimeStamp

/-- A time stamp has ten characters at least. -/
theorem le_length_text {s : TimeStamp} (h : s.InRange) : 10 ≤ s.text.toList.length := by
  have hdate : 10 ≤ s.written.date.text.toList.length := by
    simp only [Date.toList_text, List.length_append, List.length_cons,
      length_paddedDigits 4 (by decide) h.toNat_year.2,
      length_paddedDigits 2 (by decide) s.written.inCalendar.month_lt,
      length_paddedDigits 2 (by decide) s.written.inCalendar.day_lt]
    omega
  refine hdate.trans ?_
  cases s <;> simp only [text, written, CivilTime.midnight, CivilTime.text, String.toList_append,
    List.length_append] <;> omega

/-- **A time stamp is read as the instant that a clock of universal time shows.** -/
theorem ofText?_text {s : TimeStamp} (h : s.InRange) :
    Instant.ofText? s.text = some ⟨s.universal.seconds, 0⟩ := by
  rw [Instant.ofText?_of_trim_eq_self (le_length_text h) s.trim_text]
  cases s with
  | zoned separator t zone =>
    have hrange : t.date.InRange := h
    have hread := Instant.readStamp?_zoned hrange separator zone
    have huniversal : (zoned separator t zone).universal.seconds = t.seconds - 60 * zone.total := by
      cases zone with
      | letter large => simp [universal, written, Zone.total]
      | offset o hyphen => exact t.seconds_universal o
    simp only [text, String.toList_append, List.append_assoc, hread, huniversal]
    rfl
  | plain t =>
    have hrange : t.date.InRange := h
    rw [text, Instant.readStamp?_text hrange, Instant.readLocalSeconds?_text hrange]
    rfl
  | minutes t hsecond =>
    have hrange : t.date.InRange := h
    have htext : (t.date.text ++ "T" ++ t.minuteClock).toList =
        t.date.text.toList ++ 'T' :: t.minuteClock.toList := by
      simp
    rw [text, htext, Instant.readStamp?_minuteClock hrange,
      Instant.readLocalSeconds?_minuteClock hrange,
      Instant.readLocalMinutes?_minuteClock hrange hsecond]
    rfl
  | date d hd =>
    have hrange : d.InRange := h
    have hread := Instant.readMinutes?_text hd hrange
    rw [text, Instant.readStamp?_dateText hd hrange, Instant.readMidnight?_text hd hrange,
      Instant.readLocalSeconds?, Instant.readLocalMinutes?, hread]
    rfl

end TimeStamp

end RegulatoryReporting
