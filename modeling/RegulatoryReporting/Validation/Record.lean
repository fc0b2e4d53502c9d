import RegulatoryReporting.Package.Selection
import RegulatoryReporting.Report
import RegulatoryReporting.Validation.Field
import RegulatoryReporting.Validation.Lookups

/-!
# Validation of Records

A record is validated against one report type of a package: its fields are checked in the
order of the package, then its rules, and the findings are put together into a report. A
record that fails is no error; the only error is a report type that the package does not
declare.

A record may be validated alone or as a member of a batch, and against registers that are
asked at once or beforehand.
-/

namespace RegulatoryReporting.Engine

/-- The findings about the fields of a record. -/
def fieldFindings (e : Engine) (p : Package) (reportType : String) (record : Json) :
    List Finding :=
  p.fields.flatMap fun f => f.findings e.evaluator reportType record

/-- The findings about the rules of a record that is validated alone. -/
def ruleFindings (e : Engine) (p : Package) (reportType : String) (record : Json) :
    List Finding :=
  (e.judgeAll p reportType record).map Judgement.settleAlone

/-- The report on a record for a report type, given the findings about its rules. -/
def report (e : Engine) (p : Package) (reportType : String) (record : Json)
    (ruleFindings : List Finding) : ValidationReport :=
  .ofFindings p.id reportType (e.fieldFindings p reportType record ++ ruleFindings)

/-- The report on a record for a report type. -/
def reportAlone (e : Engine) (p : Package) (reportType : String) (record : Json) :
    ValidationReport :=
  e.report p reportType record (e.ruleFindings p reportType record)

/-- The report on a record of a batch for a report type, and the batch afterwards. -/
def reportIn (e : Engine) (p : Package) (reportType : String) (record : Json)
    (label : String) (b : Batch) : ValidationReport × Batch :=
  let (fs, b) := Judgement.settleAllIn label (e.judgeAll p reportType record) b
  (e.report p reportType record fs, b)

/-! ### Validation -/

/-- Validate a record alone. -/
def validate (e : Engine) (p : Package) (reportType : Option String) (record : Json) :
    Except ReportTypeError ValidationReport :=
  (p.selectReportType reportType).map fun t => e.reportAlone p t.code record

/-- Validate a record of a batch. -/
def validateIn (e : Engine) (p : Package) (reportType : Option String) (record : Json)
    (label : String) (b : Batch) : Except ReportTypeError (ValidationReport × Batch) :=
  (p.selectReportType reportType).map fun t => e.reportIn p t.code record label b

/-! ### Registers that are asked beforehand -/

/-- The engine over the answers to the questions that a record asks. -/
def withAnswers (e : Engine) (p : Package) (reportType : String) (record : Json)
    (known : Lookup) : Engine :=
  let answers := ReferenceCodes.ofAnswers (e.inquiries p reportType record) known
  { e with reference := some answers.lookup }

/-- Validate a record alone, having asked all its questions beforehand. -/
def validateAhead (e : Engine) (p : Package) (reportType : Option String) (record : Json)
    (known : Lookup) : Except ReportTypeError ValidationReport :=
  (p.selectReportType reportType).map fun t =>
    (e.withAnswers p t.code record known).reportAlone p t.code record

/-- Validate a record of a batch, having asked all its questions beforehand. -/
def validateAheadIn (e : Engine) (p : Package) (reportType : Option String) (record : Json)
    (known : Lookup) (label : String) (b : Batch) :
    Except ReportTypeError (ValidationReport × Batch) :=
  (p.selectReportType reportType).map fun t =>
    (e.withAnswers p t.code record known).reportIn p t.code record label b

/-- The questions that validating a record asks, in order. -/
def questions (e : Engine) (p : Package) (reportType : Option String) (record : Json) :
    List Inquiry :=
  match p.selectReportType reportType with
  | .ok t => e.inquiries p t.code record
  | .error _ => []

end RegulatoryReporting.Engine
