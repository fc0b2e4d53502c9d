import RegulatoryReporting.Identifier.CheckDigit
import RegulatoryReporting.Reference.Kind

/-!
# Validators

A validator checks the form of one value. Some validators also look the value up in a
register, if there is one to ask, or in a list of allowed values. Blanks around a value
are dropped first. A value that is refused has a reason; a value that is accepted has
none.

A validator asks a register only about a code of the right shape (`Validator.lookups`).
-/

namespace RegulatoryReporting

/-- A check of the form of a value. -/
inductive Validator
  | leiFormat
  | leiChecksum
  | isinFormat
  | isinChecksum
  | isoCurrency
  | isoCountry
  | micFormat
  | utiFormat
  | upiFormat
  | cfiFormat
  /-- The value is in a list. -/
  | enumValue
  deriving DecidableEq, Repr

namespace Validator

/-- The key of a validator. -/
def key : Validator → String
  | leiFormat => "LEI_FORMAT"
  | leiChecksum => "LEI_CHECKSUM"
  | isinFormat => "ISIN_FORMAT"
  | isinChecksum => "ISIN_CHECKSUM"
  | isoCurrency => "ISO_CURRENCY"
  | isoCountry => "ISO_COUNTRY"
  | micFormat => "MIC_FORMAT"
  | utiFormat => "UTI_FORMAT"
  | upiFormat => "UPI_FORMAT"
  | cfiFormat => "CFI_FORMAT"
  | enumValue => "ENUM_VALUE"

/-- Every validator. -/
def all : List Validator :=
  [leiFormat, leiChecksum, isinFormat, isinChecksum, isoCurrency, isoCountry, micFormat,
    utiFormat, upiFormat, cfiFormat, enumValue]

/-- The validators under their keys. -/
def wireNames : List (String × Validator) := all.map fun v => (v.key, v)

/-- Read the key of a validator, in any case and with blanks around it. -/
def ofName (s : String) : Except UnknownName Validator :=
  lookupName "validator" wireNames (Text.normalizeCode s)

/-- The register that a validator consults. -/
def referenceKind? : Validator → Option ReferenceKind
  | isoCurrency => some .currency
  | isoCountry => some .country
  | micFormat => some .mic
  | _ => none

/-- The validator of the codes of a register. -/
def ofReferenceKind : ReferenceKind → Validator
  | .currency => isoCurrency
  | .country => isoCountry
  | .mic => micFormat

end Validator

/-- The shape of the codes of a register. -/
def ReferenceKind.shape : ReferenceKind → Shape
  | currency => .currency
  | country => .country
  | mic => .mic

/-! ### Checks -/

/-- Why a trimmed value is not in a list of allowed values, whose blanks do not count. -/
def notAllowed? (allowed : List String) (value : String) : Option String :=
  let value := Text.trim value
  if allowed.any fun candidate => Text.trim candidate == value then none
  else some ("'" ++ value ++ "' is not one of: " ++ String.intercalate ", " allowed)

/-- The reason for a value of the wrong shape. -/
def malformedReason (value label : String) : String :=
  s!"'{value}' is not a well-formed {label}"

/-- Why a value is not of a shape. -/
def notShaped? (fits : Bool) (value label : String) : Option String :=
  if fits then none else some (malformedReason value label)

/-- Why a value is no identifier with check digits. -/
def notChecked? (fits valid : Bool) (value label failure : String) : Option String :=
  if !fits then some (malformedReason value label)
  else if valid then none
  else some s!"'{value}' fails {failure}"

/-- Why a value is no code of a register. -/
def notKnown? (kind : ReferenceKind) (lookup : Option Lookup) (value : String) :
    Option String :=
  if kind.shape.fits value.toList then
    match lookup with
    | some known =>
      if known kind value then none else some s!"'{value}' is not a known {kind.name} code"
    | none => none
  else some (malformedReason value (kind.name ++ " code"))

namespace Validator

/-- Why a validator refuses a value without blanks around it. -/
def refusesTrimmed? (v : Validator) (allowed : List String) (lookup : Option Lookup)
    (value : String) : Option String :=
  let cs := value.toList
  match v with
  | leiFormat => notShaped? (Shape.lei.fits cs) value "LEI"
  | leiChecksum =>
    notChecked? (Shape.lei.fits cs) (isValidLei value) value "LEI"
      "the ISO 17442 MOD 97-10 check"
  | isinFormat => notShaped? (Shape.isin.fits cs) value "ISIN"
  | isinChecksum =>
    notChecked? (Shape.isin.fits cs) (isValidIsin value) value "ISIN"
      "the ISO 6166 check digit"
  | isoCurrency => notKnown? .currency lookup value
  | isoCountry => notKnown? .country lookup value
  | micFormat => notKnown? .mic lookup value
  | utiFormat => notShaped? (Shape.fitsUti cs) value "UTI"
  | upiFormat => notShaped? (Shape.upi.fits cs) value "UPI"
  | cfiFormat => notShaped? (Shape.cfi.fits cs) value "CFI code"
  | enumValue => notAllowed? allowed value

/-- Why a validator refuses a value, if it does. -/
def refuses? (v : Validator) (allowed : List String) (lookup : Option Lookup)
    (value : String) : Option String :=
  v.refusesTrimmed? allowed lookup (Text.trim value)

/-- The register and the code that a validator asks about, if it asks. -/
def lookups (v : Validator) (value : String) : List (ReferenceKind × String) :=
  let value := Text.trim value
  match v.referenceKind? with
  | some kind => if kind.shape.fits value.toList then [(kind, value)] else []
  | none => []

end Validator

end RegulatoryReporting
