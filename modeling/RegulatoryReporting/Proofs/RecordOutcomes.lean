import RegulatoryReporting.Proofs.RecordSequence
import RegulatoryReporting.Proofs.ReportOrder

/-!
# The Outcomes of a List of Records

A list of records is validated as a whole. Whether there is a result depends on the package and
the given report type alone: the same choice is made for every record and once more for a list
without records, so a list has either an outcome for each of its records or none at all. The
outcomes stand where their records stand and are labelled by their places.

What is told about the whole agrees with what is told about the records. The verdicts are
counted one by one, so the totals add up to the number of records, and there are failures
exactly if some report has a failed error.

## Main results

* `BatchReport.sum_totals`, `BatchReport.hasFailures_iff` — the totals of a result.
* `Package.mem_reportTypes_of_select` — a report type that is chosen is a declared one.
* `Engine.validateAll_in_turn` — when a list of records has a result, and what it tells.
-/

namespace RegulatoryReporting

/-! ### Totals -/

namespace BatchReport

/-- Every record has one of the three verdicts. -/
theorem sum_totals (r : BatchReport) :
    r.totals.passed + r.totals.warned + r.totals.failed = r.outcomes.length := by
  simp only [totals, countOf]
  induction r.outcomes with
  | nil => rfl
  | cons o os ih =>
    simp only [List.countP_cons, List.length_cons]
    cases o.report.overallStatus <;> simp <;> omega

/-- There are failures exactly if some are counted. -/
theorem hasFailures_iff {r : BatchReport} : r.hasFailures = true ↔ 0 < r.totals.failed := by
  rw [hasFailures, List.any_eq_true]
  exact List.countP_pos_iff.symm

/-- Failures are counted exactly if some record fails. -/
theorem failed_pos_iff {r : BatchReport} :
    0 < r.totals.failed ↔ ∃ o ∈ r.outcomes, o.report.overallStatus = .fail := by
  simp only [totals, countOf, List.countP_pos_iff, beq_iff_eq]

end BatchReport

/-- A record fails exactly when its report has a failed error. -/
theorem ValidationReport.overallStatus_eq_fail_iff_findings {packageId reportType : String}
    {fs : List Finding} :
    (ofFindings packageId reportType fs).overallStatus = .fail ↔
      ∃ g ∈ (ofFindings packageId reportType fs).findings,
        g.passed = false ∧ g.severity = .error := by
  rw [overallStatus_eq_fail_iff]
  simp only [ofFindings, mem_sortFindings, Finding.isFailureAt, Bool.and_eq_true,
    Bool.not_eq_true', beq_iff_eq]

/-! ### Results -/

/-- The report type that is chosen is one that the package declares. -/
theorem Package.mem_reportTypes_of_select {p : Package} {code : Option String} {t : ReportType}
    (h : p.selectReportType code = .ok t) : t ∈ p.reportTypes := by
  cases code with
  | some code =>
    simp only [selectReportType] at h
    split at h
    next found hfound =>
      obtain rfl : found = t := Except.ok.inj h
      exact List.mem_of_find?_eq_some hfound
    next => cases h
  | none =>
    simp only [selectReportType] at h
    split at h
    next only hone =>
      obtain rfl : only = t := Except.ok.inj h
      rw [hone]
      exact List.mem_cons_self
    next => cases h

namespace Engine

/-- What a result tells about a list of records that are validated against a declared report
type. -/
structure ReportsInTurn (e : Engine) (p : Package) (code : Option String) (t : ReportType)
    (records : List Json) (result : BatchReport) : Prop where
  /-- The report type is declared. -/
  declared : t ∈ p.reportTypes
  packageId : result.packageId = p.id
  reportType : result.reportType = t.code
  /-- There is one outcome for each record. -/
  length : result.outcomes.length = records.length
  /-- The outcome at a place is that of the record at this place, in the batch that the records
  before have left. -/
  outcome : ∀ i record, records[i]? = some record → ∃ o, result.outcomes[i]? = some o ∧
    o.label = "#" ++ toString i ∧ o.report.packageId = p.id ∧ o.report.reportType = t.code ∧
    ∃ after, e.validateIn p code record o.label
      (e.batchFrom p t.code 0 (records.take i) .empty) = .ok (o.report, after)
  /-- The totals are those of the records. -/
  totals : result.totals.passed + result.totals.warned + result.totals.failed = records.length
  hasFailures_iff : result.hasFailures = true ↔ 0 < result.totals.failed
  /-- Failures come from failed errors. -/
  failed_pos_iff : 0 < result.totals.failed ↔
    ∃ o ∈ result.outcomes, ∃ g ∈ o.report.findings, g.passed = false ∧ g.severity = .error

variable {e : Engine} {p : Package} {code : Option String} {t : ReportType}

/-- Each outcome has the report of some findings, for the package and the report type. -/
theorem exists_report_eq_ofFindings {records : List Json} {index : Nat} {b : Batch}
    {o : RecordOutcome} (h : o ∈ e.outcomesFrom p t.code index records b) :
    ∃ fs, o.report = .ofFindings p.id t.code fs := by
  induction records generalizing index b with
  | nil => cases h
  | cons record rest ih =>
    rw [outcomesFrom, List.mem_cons] at h
    rcases h with rfl | h
    · exact ⟨_, rfl⟩
    · exact ih h

/-- The outcomes of records in turn are a result. -/
theorem reportsInTurn_outcomesFrom (hselect : p.selectReportType code = .ok t)
    (records : List Json) :
    e.ReportsInTurn p code t records
      ⟨p.id, t.code, e.outcomesFrom p t.code 0 records .empty⟩ where
  declared := Package.mem_reportTypes_of_select hselect
  packageId := rfl
  reportType := rfl
  length := length_outcomesFrom
  outcome i record hrecord := by
    refine ⟨_, by rw [getElem?_outcomesFrom, hrecord, Nat.zero_add]; rfl, rfl, rfl, rfl, ?_⟩
    rw [validateIn, hselect]
    exact ⟨_, rfl⟩
  totals := (BatchReport.sum_totals _).trans length_outcomesFrom
  hasFailures_iff := BatchReport.hasFailures_iff
  failed_pos_iff := by
    rw [BatchReport.failed_pos_iff]
    refine exists_congr fun o => and_congr_right fun ho => ?_
    obtain ⟨fs, hreport⟩ := exists_report_eq_ofFindings ho
    rw [hreport, ValidationReport.overallStatus_eq_fail_iff_findings]

/-- **All records or none.** For every engine, package, report type and list of records, there
is no result if the report type is not accepted, not even for an empty list. Otherwise there is
one, with the outcomes of all records in turn. -/
theorem validateAll_in_turn (e : Engine) (p : Package) (code : Option String)
    (records : List Json) :
    match p.selectReportType code with
    | .error fault => ∃ label, e.validateAll p code records = .error ⟨label, fault⟩
    | .ok t => ∃ result, e.validateAll p code records = .ok result ∧
        e.ReportsInTurn p code t records result := by
  cases hselect : p.selectReportType code with
  | error fault => exact exists_validateAll_of_error hselect records
  | ok t =>
    exact ⟨_, validateAll_of_select hselect records, reportsInTurn_outcomesFrom hselect records⟩

end Engine

end RegulatoryReporting
