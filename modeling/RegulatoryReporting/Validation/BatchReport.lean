import RegulatoryReporting.Validation.Record

/-!
# Batch Reports

All records of a file are validated as one batch, so uniqueness rules see the whole file.
The records are labelled by their indices. Either every record has a report or there is no
batch report at all: the only error is a report type that the package does not have.
-/

namespace RegulatoryReporting

/-- The report on one record of a batch. -/
structure RecordOutcome where
  /-- The label of the record. -/
  label : String
  /-- Its report. -/
  report : ValidationReport
  deriving DecidableEq, Repr

/-- The wire form of the report on a record. -/
def RecordOutcome.toJson (o : RecordOutcome) : Json :=
  .obj [("record", .str o.label), ("report", o.report.toJson)]

/-- How many records of a batch have each verdict. -/
structure StatusTotals where
  /-- Records that pass. -/
  passed : Nat
  /-- Records that warn. -/
  warned : Nat
  /-- Records that fail. -/
  failed : Nat
  deriving DecidableEq, Repr

/-- The reports on the records of a batch. -/
structure BatchReport where
  /-- The id of the package. -/
  packageId : String
  /-- The code of the report type. -/
  reportType : String
  /-- The records in order. -/
  outcomes : List RecordOutcome
  deriving DecidableEq, Repr

namespace BatchReport

/-- Whether some record fails. -/
def hasFailures (r : BatchReport) : Bool :=
  r.outcomes.any fun o => o.report.overallStatus == .fail

/-- The number of records of a verdict. -/
def countOf (r : BatchReport) (status : OverallStatus) : Nat :=
  r.outcomes.countP fun o => o.report.overallStatus == status

/-- The numbers of records of each verdict. -/
def totals (r : BatchReport) : StatusTotals :=
  ⟨r.countOf .pass, r.countOf .warn, r.countOf .fail⟩

/-- The wire form of a batch report. -/
def toJson (r : BatchReport) : Json :=
  .obj [("package_id", .str r.packageId), ("records", .arr (r.outcomes.map (·.toJson))),
    ("report_type", .str r.reportType)]

end BatchReport

/-- Why a batch has no report. -/
structure BatchError where
  /-- The label of the record that was being validated, if there is one. -/
  label : Option String
  /-- What is wrong. -/
  cause : ReportTypeError
  deriving DecidableEq, Repr

/-- The message for a batch without a report. -/
def BatchError.message (e : BatchError) : String :=
  match e.label with
  | some label => s!"validate record {label}: " ++ e.cause.message
  | none => e.cause.message

namespace Engine

/-- The reports on records from an index on, given the batch of those before. -/
def validateFrom (e : Engine) (p : Package) (reportType : Option String) :
    Nat → List Json → Batch → Except BatchError (List RecordOutcome)
  | _, [], _ => .ok []
  | index, record :: rest, b =>
    let label := indexLabel index
    match e.validateIn p reportType record label b with
    | .error cause => .error ⟨some label, cause⟩
    | .ok (report, b) =>
      (e.validateFrom p reportType (index + 1) rest b).map (⟨label, report⟩ :: ·)

/-- The report on a batch of records. -/
def validateAll (e : Engine) (p : Package) (reportType : Option String)
    (records : List Json) : Except BatchError BatchReport := do
  let outcomes ← e.validateFrom p reportType 0 records .empty
  match outcomes.head? with
  | some first => return ⟨p.id, first.report.reportType, outcomes⟩
  | none =>
    match p.selectReportType reportType with
    | .ok t => return ⟨p.id, t.code, outcomes⟩
    | .error cause => .error ⟨none, cause⟩

end Engine

end RegulatoryReporting
