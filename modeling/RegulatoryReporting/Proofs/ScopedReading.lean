import RegulatoryReporting.Proofs.ReadPaths
import RegulatoryReporting.Proofs.RuleFindings

/-!
# What a Report Depends On

A report is made for one report type, and only the fields and rules of this report type look
the record up. The paths that are read are therefore those of the fields and rules in scope
(`Package.readPathsFor`); a path that only other report types read does not matter. Two
records that answer alike at these paths have the same report, and leave the same keys
behind in a batch, unless some code for an assertion in scope looks at the whole record.

The module puts the lemmas about single fields and rules together; the step to the batch is
free, because a record meets the batch only through its judgements.

## Main results

* `Engine.fieldFindings_congr_of_scope`, `Engine.judgeAll_congr_of_scope` — the fields and
  rules in scope depend on the paths in scope only.
* `Engine.validate_eq_of_answerAlike` — so do the report and the batch.
-/

namespace RegulatoryReporting

namespace Package

/-- The paths at which a package looks a record up for a report type: those of the fields and
of the rules in scope. -/
def readPathsFor (p : Package) (reportType : String) : List String :=
  (p.fields.filter fun f => f.appliesTo reportType).flatMap (·.readPaths) ++
    (p.rulesFor reportType).flatMap p.rulePaths

variable {p : Package} {reportType : String}

/-- The paths of a field in scope are read. -/
theorem readPaths_subset_readPathsFor {f : Field} (hf : f ∈ p.fields)
    (hscope : f.appliesTo reportType = true) : f.readPaths ⊆ p.readPathsFor reportType :=
  fun _ hpath => List.mem_append_left _
    (List.mem_flatMap.2 ⟨f, List.mem_filter.2 ⟨hf, hscope⟩, hpath⟩)

/-- The paths of a rule in scope are read. -/
theorem rulePaths_subset_readPathsFor {r : Rule} (hr : r ∈ p.rulesFor reportType) :
    p.rulePaths r ⊆ p.readPathsFor reportType :=
  fun _ hpath => List.mem_append_right _ (List.mem_flatMap.2 ⟨r, hr, hpath⟩)

end Package

namespace Engine

/-- Some rule over the whole record in scope is checked by code. -/
def HasHandler (e : Engine) (p : Package) (reportType : String) : Prop :=
  ∃ r ∈ p.rulesFor reportType, (r.type = .crossField ∨ r.type = .business) ∧
    (e.catalog.handler? r.id).isSome = true

section

variable {p : Package} {reportType : String} {record₁ record₂ : Json}
  (h : AnswerAlike (p.readPathsFor reportType) record₁ record₂)

include h

/-- The findings about the fields depend on the paths in scope only: a field out of scope
has none. -/
theorem fieldFindings_congr_of_scope (e : Engine) :
    e.fieldFindings p reportType record₁ = e.fieldFindings p reportType record₂ := by
  refine List.flatMap_congr fun f hf => ?_
  by_cases hscope : f.appliesTo reportType = true
  · have hpaths := Package.readPaths_subset_readPathsFor hf hscope
    exact Field.findings_congr (h.mono hpaths) e.evaluator reportType
  · have hout : ∀ record, f.effectiveRequirement e.evaluator reportType record =
        .notApplicable := fun record => if_neg hscope
    rw [Field.findings, Field.findings, hout, hout]
    rfl

/-- What a record says about the rules depends on the paths in scope only, if no code checks
an assertion in scope. -/
theorem judgeAll_congr_of_scope (e : Engine) (hcode : ¬ e.HasHandler p reportType) :
    e.judgeAll p reportType record₁ = e.judgeAll p reportType record₂ := by
  rw [judgeAll, judgeAll]
  refine List.map_congr_left fun r hr => ?_
  refine judge_congr_of_answerAlike (h.mono (Package.rulePaths_subset_readPathsFor hr)) e ?_
  intro htype handler hhandler
  exact absurd ⟨r, hr, htype, by rw [hhandler]; rfl⟩ hcode

end

/-- **A report depends on the record through the paths in scope only.** Let the report type
that a call selects, if it selects one, have no code for its assertions, and let two records
answer alike at every path that this report type reads. Then the two records have the same
outcome: the same error or the same report, and in a batch, under the same label, the same
keys afterwards. -/
theorem validate_eq_of_answerAlike (e : Engine) (p : Package) (reportType : Option String)
    {record₁ record₂ : Json}
    (hcode : ∀ t, p.selectReportType reportType = .ok t → ¬ e.HasHandler p t.code)
    (halike : ∀ t, p.selectReportType reportType = .ok t →
      AnswerAlike (p.readPathsFor t.code) record₁ record₂) :
    e.validate p reportType record₁ = e.validate p reportType record₂ ∧
      ∀ (label : String) (b : Batch),
        e.validateIn p reportType record₁ label b =
          e.validateIn p reportType record₂ label b := by
  cases hselect : p.selectReportType reportType with
  | error fault =>
    -- A call that selects no report type does not look at the record.
    refine ⟨?_, fun label b => ?_⟩
    · simp only [validate, hselect, Except.map]
    · simp only [validateIn, hselect, Except.map]
  | ok t =>
    have hrules := judgeAll_congr_of_scope (halike t hselect) e (hcode t hselect)
    have hreport : ∀ fs, e.report p t.code record₁ fs = e.report p t.code record₂ fs := by
      intro fs
      rw [report, report, fieldFindings_congr_of_scope (halike t hselect) e]
    have halone : e.reportAlone p t.code record₁ = e.reportAlone p t.code record₂ := by
      rw [reportAlone, reportAlone, ruleFindings, ruleFindings, hrules, hreport]
    have hin : ∀ label b, e.reportIn p t.code record₁ label b =
        e.reportIn p t.code record₂ label b := by
      intro label b
      simp only [reportIn, hrules, hreport]
    refine ⟨?_, fun label b => ?_⟩
    · simp only [validate, hselect, Except.map, halone]
    · simp only [validateIn, hselect, Except.map, hin]

end Engine

/-- A package whose trades are described by a currency and a quantity, and whose margins by an
amount. -/
def Package.twoDesksPackage : Package where
  id := "DESKS"
  regulationCode := "EMIR"
  version := "1"
  reportTypes := [{ code := "TRADE" }, { code := "MARGIN" }]
  fields := [
    { id := "CCY", requirement := .mandatory, recordPath := some "legs[side=PAY].currency" },
    { id := "AMOUNT", requirement := .mandatory, reportTypes := some ["MARGIN"] }]
  rules := [
    { id := "R1", severity := .error, type := .uniqueness, affectedFields := ["CCY", "uti"] },
    { id := "R2", severity := .warning, type := .business
      precondition := some (.fieldExists "quantity")
      assertion := some (.leaf ⟨"quantity", .gt, some (.num (.int 0))⟩) },
    { id := "R3", severity := .error, type := .required, affectedFields := ["AMOUNT"]
      reportTypes := some ["MARGIN"] }]

/-- A trade of this package, with an amount and a currency of its receiving leg. -/
def Package.twoDesksTrade (amount : Int) (received : String) : Json :=
  .obj [("AMOUNT", .num (.int amount)),
    ("legs", .arr [.obj [("currency", .str received), ("side", .str "RECEIVE")],
      .obj [("currency", .str "EUR"), ("side", .str "PAY")]]),
    ("quantity", .num (.int 5)), ("uti", .str "U1")]

/-- Two trades that differ in what only margins read, and in a leg that the filter of the
path passes over, have the same reports. -/
theorem Package.twoDesksTrade_validate_eq :
    twoDesksPackage.selectReportType (some "TRADE") = .ok { code := "TRADE" } ∧
      AnswerAlike (twoDesksPackage.readPathsFor "TRADE") (twoDesksTrade 1 "USD")
        (twoDesksTrade 2 "GBP") ∧
      (default : Engine).validate twoDesksPackage (some "TRADE") (twoDesksTrade 1 "USD") =
        (default : Engine).validate twoDesksPackage (some "TRADE") (twoDesksTrade 2 "GBP") := by
  have hselect : twoDesksPackage.selectReportType (some "TRADE") = .ok { code := "TRADE" } := by
    decide +kernel
  have halike : AnswerAlike (twoDesksPackage.readPathsFor "TRADE") (twoDesksTrade 1 "USD")
      (twoDesksTrade 2 "GBP") := by
    have hpaths : twoDesksPackage.readPathsFor "TRADE" =
        ["legs[side=PAY].currency", "legs[side=PAY].currency", "uti", "quantity", "quantity"] := by
      decide +kernel
    rw [hpaths, AnswerAlike]
    simp only [List.forall_mem_cons]
    exact ⟨by rfl, by rfl, by rfl, by rfl, by rfl, nofun⟩
  refine ⟨hselect, halike, ?_⟩
  refine (Engine.validate_eq_of_answerAlike default twoDesksPackage (some "TRADE")
    (fun t ht => ?_) fun t ht => ?_).1
  · rintro ⟨r, -, -, hhandler⟩
    cases hhandler
  · obtain rfl := Except.ok.inj (hselect.symm.trans ht)
    exact halike

end RegulatoryReporting
