import RegulatoryReporting.Registry.Basic
import RegulatoryReporting.Validation.BatchReport

/-!
# Summaries for Readers

What is shown of a registry and of a batch report: lines of text and tables. A table is a
list of rows, the first of which is its header; how its columns are laid out is decided
where it is printed.
-/

namespace RegulatoryReporting

/-- A part of what is shown. -/
inductive Block
  | line (text : String)
  /-- A table, its header first. -/
  | table (rows : List (List String))
  deriving DecidableEq, Repr

/-! ### Packages -/

/-- The row of a package. -/
def Package.summaryRow (p : Package) : List String :=
  [p.id, p.regulationCode, p.version, String.intercalate ", " p.reportTypeCodes,
    toString p.fields.length, toString p.rules.length]

/-- The table of the packages of a registry. -/
def Registry.summary (r : Registry) : List Block :=
  [.table (["Package", "Regulation", "Version", "Report types", "Fields", "Rules"] ::
    r.packages.map (·.summaryRow))]

/-! ### Records -/

/-- The row of a record. -/
def RecordOutcome.summaryRow (o : RecordOutcome) : List String :=
  let counts := o.report.counts
  [o.label, o.report.overallStatus.label, toString counts.errors, toString counts.warnings,
    toString counts.infos, toString counts.mandatoryMissing,
    toString counts.conditionalUnresolved]

namespace BatchReport

/-- All findings of a batch, record by record. -/
def allFindings (r : BatchReport) : List Finding :=
  r.outcomes.flatMap fun o => o.report.findings

/-- The number of failures of a severity in a batch. -/
def failureCount (r : BatchReport) (s : Severity) : Nat :=
  r.allFindings.countP fun f => f.isFailureAt s

/-- The row of totals. -/
def totalRow (r : BatchReport) : List String :=
  let t := r.totals
  ["TOTAL", s!"{t.passed} pass / {t.warned} warn / {t.failed} fail",
    toString (r.failureCount .error), toString (r.failureCount .warning),
    toString (r.failureCount .info), "-", "-"]

/-- The table of the records of a batch. -/
def recordTable (r : BatchReport) : Block :=
  .table (["Record", "Status", "Errors", "Warnings", "Infos", "Missing", "Unresolved"] ::
    (r.outcomes.map (·.summaryRow) ++ [r.totalRow]))

/-! ### Findings -/

/-- The failures of a batch with the labels of their records. -/
def labelledFailures (r : BatchReport) : List (String × Finding) :=
  r.outcomes.flatMap fun o => o.report.failures.map fun f => (o.label, f)

/-- The failures of a batch, the most severe first, in their order within a severity. -/
def sortedFailures (r : BatchReport) : List (String × Finding) :=
  Severity.all.flatMap fun s => r.labelledFailures.filter fun f => f.2.severity == s

/-- The row of a failure. -/
def failureRow (label : String) (f : Finding) : List String :=
  [label, f.severity.label, f.subject, f.code.name, f.path.getD "-", f.message]

/-- The table of failures under its title, or nothing when there are none. -/
def failureBlocks (r : BatchReport) : List Block :=
  match r.sortedFailures with
  | [] => []
  | failures =>
    [.line "", .line "Findings:",
      .table (["Record", "Severity", "Subject", "Code", "Path", "Message"] ::
        failures.map fun f => failureRow f.1 f.2)]

/-- What is shown of a batch report. -/
def summary (r : BatchReport) : List Block :=
  [.line s!"Package: {r.packageId}", .line s!"Report type: {r.reportType}", r.recordTable] ++
    r.failureBlocks

end BatchReport

end RegulatoryReporting
