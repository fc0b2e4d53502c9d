import RegulatoryReporting.Proofs.FieldFindings
import RegulatoryReporting.Proofs.ReportOrder
import RegulatoryReporting.Proofs.RuleFindings

/-!
# The Meaning of the Verdict

A report rolls the findings about all fields and rules up into one verdict and two counts.
This module says what they mean in terms of the package and the record, without mentioning
findings about fields: a record fails when a field in scope is missing or violated, or when
a rule of severity error was executed and failed; it warns when nothing of this is the case
and a rule of severity warning was executed and failed. Fields whose requirement cannot be
decided, rules that could not be executed and rules that were not triggered leave no trace
in the verdict.

The same holds for a record of a batch, with the findings that its rules get there.

## Main results

* `Engine.exists_isFailureAt_ruleFindingsOf_iff` — which rules give failures of a severity.
* `Engine.reports_report` — the meaning of the verdict and of the counts.
* `Engine.validateOf_reports` — the same for every call that accepts the report type.
-/

namespace RegulatoryReporting

/-! ### Rules -/

namespace Rule.Finds

variable {r : Rule} {g : Finding}

/-- A finding about a rule is a failed error or warning exactly when the rule is of that
severity, was executed, and failed. -/
theorem isFailureAt_iff (h : r.Finds g) {severity : Severity} (hinfo : severity ≠ .info) :
    g.isFailureAt severity = true ↔
      r.severity = severity ∧ g.code ≠ .ruleNotAutomated ∧ g.passed = false := by
  rw [Finding.isFailureAt]
  cases h with
  | executed _ hcode hseverity => simp [hcode, hseverity, and_comm]
  | duplicate _ _ hcode hseverity hpassed => simp [hcode, hseverity, hpassed]
  | notTriggered _ hcode hseverity hpassed => simp [hpassed]
  | notAutomated _ hcode hseverity hpassed => simp [hcode, hseverity, hinfo.symm]

/-- No finding about a rule has one of the counted codes. -/
theorem code_not_counted (h : r.Finds g) :
    g.code ≠ .mandatoryMissing ∧ g.code ≠ .requirementUnresolvable := by
  cases h with
  | executed _ hcode _ | duplicate _ _ hcode _ _ | notTriggered _ hcode _ _
  | notAutomated _ hcode _ _ =>
    rw [hcode]
    decide

end Rule.Finds

namespace Engine

variable (e : Engine) (p : Package) (reportType : String) (record : Json)
  (batch : Option (String × Batch))

/-- A rule in scope of a severity was executed and failed: its finding, which stands where
the rule stands, has not passed, and the rule was not left out for want of something. -/
def RuleFails (severity : Severity) : Prop :=
  ∃ r g, (r, g) ∈ (p.rulesFor reportType).zip (e.ruleFindingsOf p reportType record batch) ∧
    r.severity = severity ∧ g.code ≠ .ruleNotAutomated ∧ g.passed = false

/-- A field in scope is required without a value, or has a value that breaks a constraint. -/
def FieldFails : Prop :=
  ∃ f ∈ p.fields, f.appliesTo reportType = true ∧
    (f.IsRequired e.evaluator record ∧ f.isAbsent record = true ∨ f.IsViolated record)

/-- Every finding about the rules stands where some rule in scope stands, and is about it. -/
theorem exists_rule_of_mem_ruleFindingsOf {g : Finding}
    (hg : g ∈ e.ruleFindingsOf p reportType record batch) :
    ∃ r, (r, g) ∈ (p.rulesFor reportType).zip (e.ruleFindingsOf p reportType record batch) ∧
      r.Finds g := by
  have hall := e.forall₂_ruleFindingsOf p reportType record batch
  obtain ⟨i, hi, rfl⟩ := List.getElem_of_mem hg
  have hlength := hall.length_eq
  have hboth : i < ((p.rulesFor reportType).zip
      (e.ruleFindingsOf p reportType record batch)).length := by
    rw [List.length_zip]
    omega
  have hpair := List.getElem_mem hboth
  rw [List.getElem_zip] at hpair
  exact ⟨_, hpair, List.forall₂_zip hall hpair⟩

/-- Rules give a failed error or warning exactly when one of that severity was executed and
failed. -/
theorem exists_isFailureAt_ruleFindingsOf_iff {severity : Severity} (hinfo : severity ≠ .info) :
    (∃ g ∈ e.ruleFindingsOf p reportType record batch, g.isFailureAt severity = true) ↔
      e.RuleFails p reportType record batch severity := by
  constructor
  · rintro ⟨g, hg, hfailure⟩
    obtain ⟨r, hpair, hfinds⟩ :=
      exists_rule_of_mem_ruleFindingsOf e p reportType record batch hg
    exact ⟨r, g, hpair, (hfinds.isFailureAt_iff hinfo).1 hfailure⟩
  · rintro ⟨r, g, hpair, hfailure⟩
    have hfinds := List.forall₂_zip (e.forall₂_ruleFindingsOf p reportType record batch) hpair
    exact ⟨g, (List.of_mem_zip hpair).2, (hfinds.isFailureAt_iff hinfo).2 hfailure⟩

/-- Fields give a failed error exactly when one of them fails. -/
theorem exists_isFailureAt_fieldFindings_iff :
    (∃ g ∈ e.fieldFindings p reportType record, g.isFailureAt .error = true) ↔
      e.FieldFails p reportType record := by
  simp only [fieldFindings, List.mem_flatMap, FieldFails,
    ← Field.exists_isFailureAt_findings_iff]
  constructor
  · rintro ⟨g, ⟨f, hf, hg⟩, hfailure⟩
    exact ⟨f, hf, g, hg, hfailure⟩
  · rintro ⟨f, hf, g, hg, hfailure⟩
    exact ⟨g, ⟨f, hf, hg⟩, hfailure⟩

/-- A code that each field has at most once, and rules never, is counted by the fields. -/
theorem countP_code_report {code : FindingCode} {q : Field → Bool}
    (hfields : ∀ f : Field, (f.findings e.evaluator reportType record).countP (·.code == code) =
      if q f then 1 else 0)
    (hrules : ∀ g ∈ e.ruleFindingsOf p reportType record batch, g.code ≠ code) :
    (sortFindings (e.fieldFindings p reportType record ++
      e.ruleFindingsOf p reportType record batch)).countP (·.code == code) =
      p.fields.countP q := by
  have hnone : (e.ruleFindingsOf p reportType record batch).countP (·.code == code) = 0 := by
    rw [List.countP_eq_zero]
    intro g hg hsame
    exact hrules g hg (eq_of_beq hsame)
  rw [countP_sortFindings, List.countP_append, hnone, Nat.add_zero, fieldFindings]
  induction p.fields with
  | nil => rfl
  | cons f fs ih =>
    rw [List.flatMap_cons, List.countP_append, ih, hfields, List.countP_cons, Nat.add_comm]

/-! ### Records -/

/-- What a report says about a record: its verdict and its counts in terms of the fields and
rules in scope. -/
structure Reports (report : ValidationReport) : Prop where
  /-- The record fails when a field fails or a rule of severity error. -/
  fail : report.overallStatus = .fail ↔
    e.FieldFails p reportType record ∨ e.RuleFails p reportType record batch .error
  /-- It warns when it does not fail, but a rule of severity warning does. -/
  warn : report.overallStatus = .warn ↔
    report.overallStatus ≠ .fail ∧ e.RuleFails p reportType record batch .warning
  /-- It passes otherwise. -/
  pass : report.overallStatus = .pass ↔
    report.overallStatus ≠ .fail ∧ ¬ e.RuleFails p reportType record batch .warning
  /-- The mandatory fields in scope whose value is absent. -/
  mandatoryMissing : report.counts.mandatoryMissing = p.fields.countP fun f =>
    f.appliesTo reportType && f.requirement == .mandatory && f.isAbsent record
  /-- The conditional fields in scope without a condition. -/
  conditionalUnresolved : report.counts.conditionalUnresolved = p.fields.countP fun f =>
    f.appliesTo reportType && f.requirement == .conditional && f.condition.isNone

/-- Only rules give failed warnings. -/
theorem exists_isFailureAt_warning_iff :
    (∃ g ∈ e.fieldFindings p reportType record ++ e.ruleFindingsOf p reportType record batch,
      g.isFailureAt .warning = true) ↔ e.RuleFails p reportType record batch .warning := by
  rw [← exists_isFailureAt_ruleFindingsOf_iff e p reportType record batch (by decide)]
  constructor
  · rintro ⟨g, hg, hfailure⟩
    rcases List.mem_append.1 hg with hg | hg
    · obtain ⟨f, _, hg⟩ := List.mem_flatMap.1 hg
      rw [Field.not_isFailureAt_warning f e.evaluator reportType record hg] at hfailure
      cases hfailure
    · exact ⟨g, hg, hfailure⟩
  · rintro ⟨g, hg, hfailure⟩
    exact ⟨g, List.mem_append_right _ hg, hfailure⟩

/-- The report on a record for a report type means what it should. -/
theorem reports_report :
    e.Reports p reportType record batch
      (e.report p reportType record (e.ruleFindingsOf p reportType record batch)) := by
  have hcodes : ∀ g ∈ e.ruleFindingsOf p reportType record batch,
      g.code ≠ .mandatoryMissing ∧ g.code ≠ .requirementUnresolvable := by
    intro g hg
    obtain ⟨r, _, hfinds⟩ := exists_rule_of_mem_ruleFindingsOf e p reportType record batch hg
    exact hfinds.code_not_counted
  constructor
  · rw [report, ValidationReport.overallStatus_eq_fail_iff,
      ← exists_isFailureAt_fieldFindings_iff,
      ← exists_isFailureAt_ruleFindingsOf_iff e p reportType record batch (by decide)]
    simp only [List.mem_append, or_and_right, exists_or]
  · rw [← exists_isFailureAt_warning_iff]
    exact ValidationReport.overallStatus_eq_warn_iff
  · rw [← exists_isFailureAt_warning_iff]
    exact ValidationReport.overallStatus_eq_pass_iff
  · exact countP_code_report e p reportType record batch
      (Field.countP_mandatoryMissing · e.evaluator reportType record)
      fun g hg => (hcodes g hg).1
  · exact countP_code_report e p reportType record batch
      (Field.countP_requirementUnresolvable · e.evaluator reportType record)
      fun g hg => (hcodes g hg).2

/-! ### Calls -/

/-- Validate a record, alone or under a label in a batch, and keep the report. -/
def validateOf (code : Option String) : Except ReportTypeError ValidationReport :=
  match batch with
  | none => e.validate p code record
  | some (label, b) => (e.validateIn p code record label b).map Prod.fst

/-- A call whose report type is accepted makes its report of the findings about fields and
rules. -/
theorem validateOf_of_select {code : Option String} {t : ReportType}
    (hselect : p.selectReportType code = .ok t) :
    e.validateOf p record batch code =
      .ok (e.report p t.code record (e.ruleFindingsOf p t.code record batch)) := by
  rcases batch with _ | ⟨label, b⟩ <;>
    simp only [validateOf, validate, validateIn, hselect] <;> rfl

/-- Whatever the package, the record and the batch: a call whose report type is accepted
gives a report, and this report means what it should; a call whose report type is not
accepted gives the reason. -/
theorem validateOf_reports (code : Option String) :
    match p.selectReportType code with
    | .ok t => ∃ report, e.validateOf p record batch code = .ok report ∧
        e.Reports p t.code record batch report
    | .error fault => e.validateOf p record batch code = .error fault := by
  cases hselect : p.selectReportType code with
  | error fault => rcases batch with _ | ⟨label, b⟩ <;>
      simp only [validateOf, validate, validateIn, hselect] <;> rfl
  | ok t =>
    refine ⟨_, ?_, reports_report e p t.code record batch⟩
    rcases batch with _ | ⟨label, b⟩ <;>
      simp only [validateOf, validate, validateIn, hselect] <;> rfl

end Engine

/-! ### Values of lists -/

/-- A package with one field, whose list has a value with a blank at its end. -/
def Package.paddedPackage : Package where
  id := "PADDED"
  regulationCode := "EMIR"
  version := "1"
  reportTypes := [{ code := "TRADE" }]
  fields := [{ id := "side", requirement := .optional, allowedValues := some ["BUY "] }]

/-- A record of this package. -/
def Package.paddedRecord : Json := .obj [("side", .str "BUY")]

/-- The blanks around the values of a list do not count: a trimmed text that is not in the
list as it is written may still pass. -/
theorem Package.paddedRecord_passes :
    (∃ f ∈ paddedPackage.fields, f.appliesTo "TRADE" = true ∧
      ∃ text, (presentValue? paddedRecord f.lookupPath).bind Json.scalarText? = some text ∧
      ∃ allowed, f.allowedValues = some allowed ∧ allowed ≠ [] ∧ Text.trim text ∉ allowed) ∧
    ((default : Engine).validateOf paddedPackage paddedRecord none none).toOption.map
      (·.overallStatus) = some .pass := by
  refine ⟨⟨_, List.mem_cons_self, by decide, "BUY", by decide, ["BUY "], rfl, ?_, ?_⟩, ?_⟩
  · exact List.cons_ne_nil _ _
  · decide
  · decide +kernel

end RegulatoryReporting
