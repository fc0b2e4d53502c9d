import RegulatoryReporting.Finding

/-!
# Reports

The findings about one record are put together into a report. Failed findings come before
passed ones, more severe ones before less severe ones, and findings of one rank keep the
order in which they were made. Only failed findings decide the verdict: a failed error
fails the record, a failed warning alone warns.

## Main results

* `mem_sortFindings` — sorting neither loses nor invents a finding.
-/

namespace RegulatoryReporting

/-! ### Verdict -/

/-- The verdict on a record. -/
inductive OverallStatus
  | pass
  | warn
  | fail
  deriving DecidableEq, Repr

namespace OverallStatus

/-- The label of a verdict. -/
def label : OverallStatus → String
  | pass => "PASS"
  | warn => "WARN"
  | fail => "FAIL"

/-- The verdict of findings. -/
def ofFindings (fs : List Finding) : OverallStatus :=
  if fs.any (·.isFailureAt .error) then fail
  else if fs.any (·.isFailureAt .warning) then warn
  else pass

end OverallStatus

/-! ### Counts -/

/-- Summary counts of findings. -/
structure ReportCounts where
  /-- Mandatory fields without a value. -/
  mandatoryMissing : Nat
  /-- Conditional fields whose requirement could not be decided. -/
  conditionalUnresolved : Nat
  /-- Failed errors. -/
  errors : Nat
  /-- Failed warnings. -/
  warnings : Nat
  /-- Failed informational findings. -/
  infos : Nat
  deriving DecidableEq, Repr

namespace ReportCounts

/-- The counts of findings. The first two are counted by their code alone. -/
def ofFindings (fs : List Finding) : ReportCounts where
  mandatoryMissing := fs.countP (·.code == .mandatoryMissing)
  conditionalUnresolved := fs.countP (·.code == .requirementUnresolvable)
  errors := fs.countP (·.isFailureAt .error)
  warnings := fs.countP (·.isFailureAt .warning)
  infos := fs.countP (·.isFailureAt .info)

/-- The wire form of counts. -/
def toJson (c : ReportCounts) : Json :=
  .obj [("conditional_unresolved", .ofNat c.conditionalUnresolved),
    ("errors", .ofNat c.errors), ("infos", .ofNat c.infos),
    ("mandatory_missing", .ofNat c.mandatoryMissing), ("warnings", .ofNat c.warnings)]

end ReportCounts

/-! ### Order -/

/-- The ranks of findings in report order: whether passed, and how severe. -/
def findingRanks : List (Bool × Severity) :=
  [false, true].flatMap fun passed => Severity.all.map fun severity => (passed, severity)

/-- The rank of a finding. -/
def Finding.rank (f : Finding) : Bool × Severity := (f.passed, f.severity)

/-- The findings rank by rank, in their order within a rank. -/
def sortFindings (fs : List Finding) : List Finding :=
  findingRanks.flatMap fun r => fs.filter fun f => f.rank == r

/-- Every rank has its place in the report. -/
theorem mem_findingRanks (r : Bool × Severity) : r ∈ findingRanks := by
  obtain ⟨b, s⟩ := r
  cases b <;> cases s <;> decide

/-- Sorting neither loses nor invents a finding. -/
theorem mem_sortFindings {f : Finding} {fs : List Finding} : f ∈ sortFindings fs ↔ f ∈ fs := by
  simp only [sortFindings, List.mem_flatMap, List.mem_filter, beq_iff_eq]
  constructor
  · rintro ⟨_, _, h, _⟩
    exact h
  · intro h
    exact ⟨f.rank, mem_findingRanks _, h, rfl⟩

/-! ### Reports -/

/-- The report on one record. -/
structure ValidationReport where
  /-- The id of the package. -/
  packageId : String
  /-- The code of the report type. -/
  reportType : String
  /-- The verdict. -/
  overallStatus : OverallStatus
  /-- The findings in report order. -/
  findings : List Finding
  /-- The summary counts. -/
  counts : ReportCounts
  deriving DecidableEq, Repr

namespace ValidationReport

/-- The report of findings, given in the order in which they were made. -/
def ofFindings (packageId reportType : String) (fs : List Finding) : ValidationReport :=
  let findings := sortFindings fs
  { packageId, reportType, findings
    overallStatus := .ofFindings findings
    counts := .ofFindings findings }

/-- Whether the record failed. -/
def hasErrors (r : ValidationReport) : Bool := r.overallStatus == .fail

/-- The failed findings in report order. -/
def failures (r : ValidationReport) : List Finding := r.findings.filter fun f => !f.passed

/-- The findings about one field or rule. -/
def findingsFor (r : ValidationReport) (subject : String) : List Finding :=
  r.findings.filter fun f => f.subject == subject

/-- The wire form of a report. -/
def toJson (r : ValidationReport) : Json :=
  .obj [("counts", r.counts.toJson), ("findings", .arr (r.findings.map Finding.toJson)),
    ("overall_status", .str r.overallStatus.label), ("package_id", .str r.packageId),
    ("report_type", .str r.reportType)]

end ValidationReport

end RegulatoryReporting
