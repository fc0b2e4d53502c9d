import RegulatoryReporting.Proofs.RecordSequence
import RegulatoryReporting.Proofs.ReportOrder

/-!
# What the Batch Decides

A record meets the batch only where the keys of its uniqueness rules are settled. A key that
was seen before changes the code and the outcome of one finding, and with them its place in
the report. This module shows that nothing else changes: without the findings about the
uniqueness rules of the package, the report of a record is the same alone and in every batch,
in the same order. The order is kept because leaving findings out before and after sorting
comes to the same (`filter_sortFindings`).

Nor does a record change what was found about the records before it.

## Main results

* `Judgement.filter_settleAllIn` — what is left of the findings about rules is independent of
  the batch.
* `Engine.validate_independent` — the reports of records alone and in batches, and of longer
  and shorter lists of records.
-/

namespace RegulatoryReporting

/-! ### Findings that are not about uniqueness -/

namespace Package

/-- Whether a uniqueness rule of the package has the given id. -/
def hasUniquenessRule (p : Package) (id : String) : Bool :=
  p.rules.any fun r => r.type == .uniqueness && r.id == id

/-- The findings that are not about a uniqueness rule of the package, in their order. -/
def withoutUniqueness (p : Package) (fs : List Finding) : List Finding :=
  fs.filter fun f => !p.hasUniquenessRule f.subject

/-- The id of a uniqueness rule of the package is one. -/
theorem hasUniquenessRule_of_mem {p : Package} {r : Rule} (hr : r ∈ p.rules)
    (htype : r.type = .uniqueness) : p.hasUniquenessRule r.id = true :=
  List.any_eq_true.2 ⟨r, hr, by simp [htype]⟩

end Package

/-! ### Judgements -/

/-- If what is kept of each single finding does not depend on the batch, then what is kept of
all of them does not. -/
theorem Judgement.filter_settleAllIn {q : Finding → Bool} {label : String}
    {js : List Judgement}
    (h : ∀ j ∈ js, ∀ b, [(j.settleIn label b).1].filter q = [j.settleAlone].filter q)
    (b : Batch) : (settleAllIn label js b).1.filter q = (js.map settleAlone).filter q := by
  induction js generalizing b with
  | nil => rfl
  | cons j js ih =>
    obtain ⟨hj, hjs⟩ := List.forall_mem_cons.1 h
    rw [settleAllIn_cons, List.map_cons, ← List.singleton_append, List.filter_append, hj,
      ih hjs, ← List.filter_append, List.singleton_append]

namespace Engine

variable {e : Engine} {p : Package} {reportType : String} {record : Json}

/-- What is kept of the finding about a rule does not depend on the batch: a judgement is
settled, or its finding is about a uniqueness rule and is left out. -/
theorem withoutUniqueness_settleIn {r : Rule} (hr : r ∈ p.rules) (label : String) (b : Batch) :
    p.withoutUniqueness [((e.judge p r record).settleIn label b).1] =
      p.withoutUniqueness [(e.judge p r record).settleAlone] := by
  have habout := e.isAbout_judge p r record
  cases hjudge : e.judge p r record with
  | settled f => rfl
  | keyed rule key path =>
    have hunique := Package.hasUniquenessRule_of_mem hr (checked_of_judge_keyed hjudge).1
    have hout : ∀ f, r.Finds f → p.withoutUniqueness [f] = [] := by
      intro f hf
      rw [Package.withoutUniqueness, List.filter_cons_of_neg (by simp [hf.subject_eq, hunique]),
        List.filter_nil]
    rw [hjudge] at habout
    rw [hout _ (habout.finds_settleIn label b), hout _ habout.finds_settleAlone]

/-- Without the findings about uniqueness rules, a record has the same findings about rules
alone and in every batch. -/
theorem withoutUniqueness_settleAllIn (label : String) (b : Batch) :
    p.withoutUniqueness (Judgement.settleAllIn label (e.judgeAll p reportType record) b).1 =
      p.withoutUniqueness (e.ruleFindings p reportType record) := by
  refine Judgement.filter_settleAllIn (fun j hj => ?_) b
  obtain ⟨r, hr, rfl⟩ := List.mem_map.1 hj
  exact withoutUniqueness_settleIn (List.mem_filter.1 hr).1 label

/-- Without the findings about uniqueness rules, a record has the same report alone and in
every batch. -/
theorem withoutUniqueness_reportIn (label : String) (b : Batch) :
    p.withoutUniqueness (e.reportIn p reportType record label b).1.findings =
      p.withoutUniqueness (e.reportAlone p reportType record).findings := by
  have hreport : ∀ fs, p.withoutUniqueness (e.report p reportType record fs).findings =
      sortFindings (p.withoutUniqueness (e.fieldFindings p reportType record) ++
        p.withoutUniqueness fs) := by
    intro fs
    rw [Package.withoutUniqueness, report, ValidationReport.ofFindings, filter_sortFindings,
      List.filter_append]
    rfl
  rw [reportAlone, hreport, ← withoutUniqueness_settleAllIn label b]
  exact hreport _

/-- Records that come later do not change the outcomes of those before. -/
theorem take_outcomesFrom_append (xs ys : List Json) (b : Batch) :
    (e.outcomesFrom p reportType 0 (xs ++ ys) b).take xs.length =
      e.outcomesFrom p reportType 0 xs b := by
  rw [outcomesFrom_append, List.take_left' length_outcomesFrom]

/-- **The batch decides about uniqueness only, and later records about nothing before.** For
every engine and package, a report type that is not accepted is an error for every record
and every list of records. With an accepted one, a record has a report alone and in every
batch, under every label, and the findings of both are the same and in the same order once
those about the uniqueness rules of the package are left out. And for all lists of records,
the outcomes of the first ones are those that they have without the others. -/
theorem validate_independent (e : Engine) (p : Package) (code : Option String) :
    match p.selectReportType code with
    | .error fault =>
      (∀ record, e.validate p code record = .error fault ∧
        ∀ label b, e.validateIn p code record label b = .error fault) ∧
      ∀ records, ∃ label, e.validateAll p code records = .error ⟨label, fault⟩
    | .ok _ =>
      (∀ record, ∃ alone, e.validate p code record = .ok alone ∧
        ∀ label b, ∃ report after,
          e.validateIn p code record label b = .ok (report, after) ∧
            p.withoutUniqueness report.findings = p.withoutUniqueness alone.findings) ∧
      ∀ xs ys, ∃ first all, e.validateAll p code xs = .ok first ∧
        e.validateAll p code (xs ++ ys) = .ok all ∧
        all.outcomes.take xs.length = first.outcomes := by
  cases hselect : p.selectReportType code with
  | error fault =>
    refine ⟨fun record => ⟨?_, fun label b => ?_⟩, exists_validateAll_of_error hselect⟩
    · simp only [validate, hselect, Except.map]
    · simp only [validateIn, hselect, Except.map]
  | ok t =>
    refine ⟨fun record => ?_, fun xs ys => ?_⟩
    · refine ⟨e.reportAlone p t.code record, by simp only [validate, hselect, Except.map], ?_⟩
      intro label b
      refine ⟨_, (e.reportIn p t.code record label b).2, ?_, withoutUniqueness_reportIn label b⟩
      simp only [validateIn, hselect, Except.map]
    · exact ⟨_, _, validateAll_of_select hselect xs, validateAll_of_select hselect (xs ++ ys),
        take_outcomesFrom_append xs ys .empty⟩

end Engine

end RegulatoryReporting
