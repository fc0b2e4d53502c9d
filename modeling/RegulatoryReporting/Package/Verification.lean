import RegulatoryReporting.Package.Basic
import RegulatoryReporting.Path.Syntax
import RegulatoryReporting.Pattern.Compilation

/-!
# Verification of Packages

A package that decodes may still contradict itself: a path that is none, a pattern that
does not compile, a scope with a report type that is not declared. Verification checks the
header of a package first, then its report types, its fields and its rules, and within a
condition the leaves from left to right. It ends with the first violation.

The checks only refuse. Ids that occur twice, counts that are not those of the lists and
conditional fields without a condition are noted in the log and refuse nothing; they are left
out here.
-/

namespace RegulatoryReporting

/-- What is wrong at a place of a package. -/
inductive Defect
  | blankPackageId
  | blankRegulationCode
  | noReportTypes
  | blankReportType
  | duplicateReportType (code : String)
  | blankFieldId
  | blankRuleId
  | invalidPath (cause : InvalidPath)
  /-- The text does not compile. What the compiler says about it is not kept. -/
  | invalidPattern (text : String)
  | invertedLengths (least most : Nat)
  | unknownReportType (code : String)
  deriving DecidableEq, Repr

/-- The message for a defect. -/
def Defect.message : Defect → String
  | blankPackageId => "package_id is blank"
  | blankRegulationCode => "regulation_code is blank"
  | noReportTypes => "package declares no report types"
  | blankReportType => "report type code is blank"
  | duplicateReportType code => s!"duplicate report type '{code}'"
  | blankFieldId => "field_id is blank"
  | blankRuleId => "rule_id is blank"
  | invalidPath cause => cause.message
  | invalidPattern text => s!"invalid pattern '{text}'"
  | invertedLengths least most => s!"min_length {least} exceeds max_length {most}"
  | unknownReportType code => s!"unknown report type '{code}'"

/-- A defect and where it is. -/
structure Violation where
  /-- The place in the package. -/
  location : String
  /-- What is wrong there. -/
  defect : Defect
  deriving DecidableEq, Repr

/-- Why a package is not accepted: its first violation. -/
structure VerificationError where
  /-- The id of the package, or a stand-in if that is blank. -/
  packageId : String
  /-- The violation. -/
  violation : Violation
  deriving DecidableEq, Repr

/-- The message for a package that is not accepted. -/
def VerificationError.message (e : VerificationError) : String :=
  s!"Invalid package '{e.packageId}' at {e.violation.location}: " ++ e.violation.defect.message

/-! ### Parts -/

/-- The defect of a path, if it is none. -/
def pathDefect? (path : String) : Option Defect :=
  match FieldPath.ofText path with
  | .ok _ => none
  | .error e => some (.invalidPath e)

/-- The defect of a pattern, if it does not compile. -/
def patternDefect? (text : String) : Option Defect :=
  match Pattern.ofText? text with
  | some _ => none
  | none => some (.invalidPattern text)

/-- The defect of a text that must not be blank. -/
def blankDefect? (defect : Defect) (text : String) : Option Defect :=
  if Text.isBlank text then some defect else none

/-- Refuse a place with a defect. -/
def refuse (location : String) : Option Defect → Except Violation Unit
  | none => .ok ()
  | some defect => .error ⟨location, defect⟩

/-- Check a leaf: its path, then its pattern. -/
def ConditionLeaf.check (location : String) (l : ConditionLeaf) : Except Violation Unit := do
  refuse location (pathDefect? l.field)
  refuse location (l.pattern?.bind patternDefect?)

/-- Visit a leaf, given what was found before: after a violation no leaf is looked at. -/
def ConditionLeaf.visit (location : String) (found : Except Violation Unit)
    (l : ConditionLeaf) : Except Violation Unit :=
  match found with
  | .ok () => l.check location
  | .error first => .error first

/-- Check the leaves of a condition from left to right. -/
def Condition.check (location : String) (c : Condition) : Except Violation Unit :=
  c.leaves.foldl (ConditionLeaf.visit location) (.ok ())

/-- The defect of a code that is not among the declared ones. -/
def scopeDefect? (declared : List String) (code : String) : Option Defect :=
  if declared.contains (Text.normalizeCode code) then none else some (.unknownReportType code)

/-- Check texts at a place one after the other. -/
def checkEach (location : String) (defect? : String → Option Defect) (texts : List String) :
    Except Violation Unit :=
  texts.forM fun text => refuse location (defect? text)

/-- Check that a scope names declared report types only. -/
def checkScope (declared : List String) (location : String) (scope : Option (List String)) :
    Except Violation Unit :=
  checkEach (location ++ ".report_types") (scopeDefect? declared) (scope.getD [])

/-! ### Fields and rules -/

/-- The defect of length bounds that exclude every text. -/
def Field.lengthDefect? (f : Field) : Option Defect := do
  let least ← f.minLength
  let most ← f.maxLength
  if most < least then some (.invertedLengths least most) else none

/-- Check a field, given the declared report types and its index. -/
def Field.check (declared : List String) (index : Nat) (f : Field) : Except Violation Unit := do
  let location := s!"fields[{index}] ({f.id})"
  refuse location (blankDefect? .blankFieldId f.id)
  refuse location (pathDefect? f.lookupPath)
  refuse (location ++ ".pattern") (f.pattern.bind patternDefect?)
  refuse location f.lengthDefect?
  checkScope declared location f.reportTypes
  f.condition.forM (·.check (location ++ ".condition_expr"))

/-- Check a rule, given the declared report types and its index. -/
def Rule.check (declared : List String) (index : Nat) (r : Rule) : Except Violation Unit := do
  let location := s!"validation_rules[{index}] ({r.id})"
  refuse location (blankDefect? .blankRuleId r.id)
  checkScope declared location r.reportTypes
  checkEach (location ++ ".affected_fields") pathDefect? r.affectedFields
  r.assertion.forM (·.check (location ++ ".condition_expr"))
  r.precondition.forM (·.check (location ++ ".applies_when"))

/-! ### Packages -/

/-- The defect of a report type, given the normalised codes before it. -/
def ReportType.defect? (before : List String) (t : ReportType) : Option Defect :=
  if (Text.normalizeCode t.code).isEmpty then some .blankReportType
  else if before.contains (Text.normalizeCode t.code) then some (.duplicateReportType t.code)
  else none

/-- Check report types from an index on, given the normalised codes before, and return all
codes. -/
def collectCodes : Nat → List String → List ReportType → Except Violation (List String)
  | _, before, [] => .ok before
  | index, before, t :: rest => do
    refuse s!"report_types[{index}]" (t.defect? before)
    collectCodes (index + 1) (before ++ [Text.normalizeCode t.code]) rest

/-- Check a package: its header, its report types, its fields and its rules. -/
def Package.check (p : Package) : Except Violation Unit := do
  refuse "package_id" (blankDefect? .blankPackageId p.id)
  refuse "regulation_code" (blankDefect? .blankRegulationCode p.regulationCode)
  refuse "report_types" (if p.reportTypes.isEmpty then some .noReportTypes else none)
  let declared ← collectCodes 0 [] p.reportTypes
  p.fields.zipIdx.forM fun (f, i) => f.check declared i
  p.rules.zipIdx.forM fun (r, i) => r.check declared i

/-- The id by which a package is called in messages. -/
def Package.calledId (p : Package) : String := if Text.isBlank p.id then "<unnamed>" else p.id

/-- Accept a package that passes all checks, or report its first violation. -/
def Package.verify (p : Package) : Except VerificationError Unit :=
  p.check.mapError (⟨p.calledId, ·⟩)

end RegulatoryReporting
