import RegulatoryReporting.Text.Case

/-!
# Registers of Codes

Currencies, countries and markets have registers of codes. Whether a code is known is
asked of a `Lookup`; nothing is assumed about how it answers.
-/

namespace RegulatoryReporting

/-- A register of codes. -/
inductive ReferenceKind
  /-- Currency codes. -/
  | currency
  /-- Country codes. -/
  | country
  /-- Market identifier codes. -/
  | mic
  deriving DecidableEq, Repr

namespace ReferenceKind

/-- The name of a register. -/
def name : ReferenceKind → String
  | currency => "CURRENCY"
  | country => "COUNTRY"
  | mic => "MIC"

/-- Every register, in the order in which registers are consulted. -/
def all : List ReferenceKind := [currency, country, mic]

/-- The place of a register among all. -/
def place : ReferenceKind → Nat
  | currency => 0
  | country => 1
  | mic => 2

/-- The registers under their names. -/
def wireNames : List (String × ReferenceKind) := all.map fun k => (k.name, k)

/-- Read the name of a register, in any case and with blanks around it. -/
def ofName (s : String) : Except UnknownName ReferenceKind :=
  lookupName "reference kind" wireNames (Text.normalizeCode s)

end ReferenceKind

/-- Whether a code is known to a register. -/
abbrev Lookup := ReferenceKind → String → Bool

end RegulatoryReporting
