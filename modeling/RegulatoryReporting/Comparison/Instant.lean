import RegulatoryReporting.Comparison.Calendar
import RegulatoryReporting.Number.Reading
import RegulatoryReporting.Text.WhiteSpace

/-!
# Instants

A text that writes a date, or a date and a time, stands for an instant of universal time.
Four forms are read, in this order:

* a date and a time with seconds and an offset, as Internet time stamps have them;
* a date and a time with seconds, without an offset;
* a date and a time without seconds and without an offset;
* a date alone, which stands for its midnight.

The forms without an offset are lenient: blanks may stand before a number, a number may
have fewer digits, and a year may have a sign and then any number of digits. A second of
sixty is a leap second, between the second before it and the next minute.
-/

namespace RegulatoryReporting

/-- An instant of universal time. -/
structure Instant where
  /-- Seconds from the midnight that begins year one, leap seconds not counted. -/
  seconds : Int
  /-- Billionths of a second; a leap second adds one billion to its second. -/
  nanos : Nat
  deriving DecidableEq, Repr

namespace Instant

/-- The order of two instants. -/
def compare (a b : Instant) : Ordering :=
  (Ord.compare a.seconds b.seconds).then (Ord.compare a.nanos b.nanos)

/-! ### Parts of a time stamp -/

/-- A time of day; a second of sixty is a leap second. -/
structure TimeOfDay where
  /-- The hour, from zero. -/
  hour : Nat
  /-- The minute. -/
  minute : Nat
  /-- The second, up to sixty. -/
  second : Nat
  /-- Billionths of a second. -/
  fraction : Nat
  deriving DecidableEq, Repr

/-- Whether the parts are in range. -/
def TimeOfDay.isValid (t : TimeOfDay) : Bool :=
  t.hour ≤ 23 && t.minute ≤ 59 && t.second ≤ 60

/-- The instant of a date and a time, `offset` minutes ahead of universal time. -/
def ofParts? (d : Date) (t : TimeOfDay) (offset : Int) : Option Instant :=
  if d.isValid && t.isValid then
    let second := min t.second 59
    let leap := if t.second = 60 then 1000000000 else 0
    some {
      seconds := 86400 * d.dayNumber + 3600 * t.hour + 60 * t.minute + second - 60 * offset
      nanos := t.fraction + leap }
  else none

/-- The leading digits, of which there are at least `least` and at most `most` are taken. -/
def readDigits? (least most : Nat) (cs : List Char) : Option (Nat × List Char) :=
  let digits := (cs.take most).takeWhile Char.isDigit
  if digits.length < least then none
  else some (digitsValue digits, cs.drop digits.length)

/-- The text after a given character. -/
def afterChar? (c : Char) : List Char → Option (List Char)
  | d :: rest => if d == c then some rest else none
  | [] => none

/-- A fraction of a second after its point, in billionths; digits beyond the ninth are
dropped. -/
def readFraction? (cs : List Char) : Option (Nat × List Char) :=
  let (digits, rest) := spanDigits cs
  if digits.isEmpty then none
  else
    let kept := digits.take 9
    some (digitsValue kept * tenPow (9 - kept.length), rest)

/-- A fraction with its point, if there is one. -/
def readOptionalFraction? : List Char → Option (Nat × List Char)
  | '.' :: rest => readFraction? rest
  | cs => some (0, cs)

/-! ### Time stamps with an offset -/

/-- An offset in minutes: zero, or a sign, hours and minutes. -/
def readOffset? : List Char → Option (Int × List Char)
  | [] => none
  | c :: rest =>
    if c == 'Z' || c == 'z' then some (0, rest)
    else do
      let negative ← if c == '+' then some false
        else if c == '-' || c == '−' then some true else none
      let (hours, rest) ← readDigits? 2 2 rest
      let rest ← afterChar? ':' rest
      let (minutes, rest) ← readDigits? 2 2 rest
      if 59 < minutes || 23 < hours then none
      let total : Int := 60 * hours + minutes
      return (if negative then -total else total, rest)

/-- A date and a time with an offset: every number has its full width. -/
def readStamp? (cs : List Char) : Option Instant := do
  let (year, cs) ← readDigits? 4 4 cs
  let cs ← afterChar? '-' cs
  let (month, cs) ← readDigits? 2 2 cs
  let cs ← afterChar? '-' cs
  let (day, cs) ← readDigits? 2 2 cs
  let cs ← match cs with
    | c :: rest => if c == 'T' || c == 't' || c == ' ' then some rest else none
    | [] => none
  let (hour, cs) ← readDigits? 2 2 cs
  let cs ← afterChar? ':' cs
  let (minute, cs) ← readDigits? 2 2 cs
  let cs ← afterChar? ':' cs
  let (second, cs) ← readDigits? 2 2 cs
  let (fraction, cs) ← readOptionalFraction? cs
  let (offset, cs) ← readOffset? cs
  if !cs.isEmpty then none
  ofParts? ⟨year, month, day⟩ ⟨hour, minute, second, fraction⟩ offset

/-! ### Local dates and times -/

/-- A number of one or two digits, blanks before it being skipped. -/
def readLenient? (cs : List Char) : Option (Nat × List Char) :=
  readDigits? 1 2 (cs.dropWhile Text.isWhiteSpace)

/-- A year: up to four digits, or a sign and any number of them. -/
def readYear? (cs : List Char) : Option (Int × List Char) :=
  match cs.dropWhile Text.isWhiteSpace with
  | '-' :: rest => (readDigits? 1 rest.length rest).map fun (n, rest) => (-(n : Int), rest)
  | '+' :: rest => (readDigits? 1 rest.length rest).map fun (n, rest) => ((n : Int), rest)
  | cs => (readDigits? 1 4 cs).map fun (n, rest) => ((n : Int), rest)

/-- A year, a month and a day. -/
def readDate? (cs : List Char) : Option (Date × List Char) := do
  let (year, cs) ← readYear? cs
  let cs ← afterChar? '-' cs
  let (month, cs) ← readLenient? cs
  let cs ← afterChar? '-' cs
  let (day, cs) ← readLenient? cs
  return (⟨year, month, day⟩, cs)

/-- A date and an hour and a minute. -/
def readMinutes? (cs : List Char) : Option (Date × Nat × Nat × List Char) := do
  let (date, cs) ← readDate? cs
  let cs ← afterChar? 'T' cs
  let (hour, cs) ← readLenient? cs
  let cs ← afterChar? ':' cs
  let (minute, cs) ← readLenient? cs
  return (date, hour, minute, cs)

/-- A local date and a time with seconds. -/
def readLocalSeconds? (cs : List Char) : Option Instant := do
  let (date, hour, minute, cs) ← readMinutes? cs
  let cs ← afterChar? ':' cs
  let (second, cs) ← readLenient? cs
  let (fraction, cs) ← readOptionalFraction? cs
  if !cs.isEmpty then none
  ofParts? date ⟨hour, minute, second, fraction⟩ 0

/-- A local date and a time without seconds. -/
def readLocalMinutes? (cs : List Char) : Option Instant := do
  let (date, hour, minute, cs) ← readMinutes? cs
  if !cs.isEmpty then none
  ofParts? date ⟨hour, minute, 0, 0⟩ 0

/-- A date alone. -/
def readMidnight? (cs : List Char) : Option Instant := do
  let (date, cs) ← readDate? cs
  if !cs.isEmpty then none
  ofParts? date ⟨0, 0, 0, 0⟩ 0

/-- The least number of bytes of a text that may stand for an instant. -/
def leastLength : Nat := 10

/-- The instant that a text stands for, blanks around it being dropped. -/
def ofText? (s : String) : Option Instant :=
  let trimmed := Text.trim s
  if trimmed.utf8ByteSize < leastLength then none
  else
    let cs := trimmed.toList
    (readStamp? cs).orElse fun _ => (readLocalSeconds? cs).orElse fun _ =>
      (readLocalMinutes? cs).orElse fun _ => readMidnight? cs

end Instant

end RegulatoryReporting
