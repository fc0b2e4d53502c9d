import RegulatoryReporting.Package.Basic

/-!
# Choosing a Report Type

A record is validated against one report type of its package. A code must name a declared
type; without a code the package must declare exactly one.
-/

namespace RegulatoryReporting

/-- Why a package has no report type to validate against. -/
inductive ReportTypeError
  /-- The package does not declare the code. -/
  | unknown (packageId code : String) (available : List String)
  /-- No code was given and the package does not declare exactly one type. -/
  | unspecified (packageId : String) (available : List String)
  deriving DecidableEq, Repr

/-- The message for a missing report type. -/
def ReportTypeError.message : ReportTypeError → String
  | unknown packageId code available =>
    let codes := String.intercalate ", " available
    s!"Report type '{code}' is not defined by package '{packageId}' " ++
      s!"(expected one of: {codes})"
  | unspecified packageId available =>
    let codes := String.intercalate ", " available
    s!"Package '{packageId}' defines several report types; one of {codes} is required"

/-- The report type of a package to validate against. -/
def Package.selectReportType (p : Package) (code : Option String) :
    Except ReportTypeError ReportType :=
  match code with
  | some code =>
    match p.reportType? code with
    | some t => .ok t
    | none => .error (.unknown p.id code p.reportTypeCodes)
  | none =>
    match p.reportTypes with
    | [only] => .ok only
    | _ => .error (.unspecified p.id p.reportTypeCodes)

end RegulatoryReporting
