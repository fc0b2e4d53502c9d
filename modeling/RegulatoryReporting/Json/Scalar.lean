import RegulatoryReporting.Json.Printer
import RegulatoryReporting.Text.WhiteSpace

/-!
# Scalars and Absence

A scalar is a string, a number or a truth value, and has a text. A place of a record is
absent when there is nothing at it, when it holds null, and when it holds a blank string:
an empty cell is not a value.

## Main results

* `Json.isAbsent_iff` — the three ways of being absent.
-/

namespace RegulatoryReporting.Json

/-- The text of a scalar. Arrays, objects and null have none. -/
def scalarText? : Json → Option String
  | str s => some s
  | num n => some n.text
  | bool b => some (if b then "true" else "false")
  | null | arr _ | obj _ => none

/-- Whether a place of a record has no value. -/
def isAbsent : Option Json → Bool
  | none => true
  | some null => true
  | some (str s) => Text.isBlank s
  | some _ => false

/-- Absent means missing, null or blank. -/
theorem isAbsent_iff {place : Option Json} :
    isAbsent place = true ↔
      place = none ∨ place = some null ∨ ∃ s, place = some (str s) ∧ Text.isBlank s = true := by
  cases place with
  | none => simp [isAbsent]
  | some v => cases v <;> simp [isAbsent]

end RegulatoryReporting.Json
