import RegulatoryReporting.Package.Verification
import RegulatoryReporting.Proofs.FieldFindings
import RegulatoryReporting.Proofs.RuleFindings

/-!
# Conditions that Cannot Be Evaluated

A condition that cannot be evaluated counts as one that does not hold, wherever a condition
is asked for. What this means for a report depends on who asks. An assertion that does not
hold is a failure. A precondition that does not hold lets its rule pass, and a conditional
field whose condition does not hold may be left out. So failing closed is a property of
conditions, not of findings: of the three, only assertions are held against the record.

The other two are not silent by accident. They are what the record would get if the condition
were known to be false, and verification alone does not exclude them, since it does not know
the limit on nesting (`Package.nestedPackage`).

## Main results

* `Engine.judge_of_fails_precondition`, `Engine.judge_of_fails_assertion`,
  `Field.findings_of_condition_fails` — the three places where a condition is asked for.
* `Engine.findings_of_fails` — what a record gets, alone or in a batch.
-/

namespace RegulatoryReporting

/-- There is a condition, and it cannot be evaluated on the record. -/
def Evaluator.Fails (e : Evaluator) (record : Json) (given : Option Condition) : Prop :=
  ∃ c fault, given = some c ∧ e.evaluate? c record = .error fault

/-- What cannot be evaluated does not hold. -/
theorem Evaluator.Fails.exists_evaluate_eq_false {e : Evaluator} {record : Json}
    {given : Option Condition} (h : e.Fails record given) :
    ∃ c, given = some c ∧ e.evaluate c record = false := by
  obtain ⟨c, fault, hgiven, hfault⟩ := h
  exact ⟨c, hgiven, by rw [evaluate, hfault]⟩

namespace Engine

variable {e : Engine} {p : Package} {r : Rule} {record : Json}

/-! ### Rules -/

/-- A rule whose precondition cannot be evaluated is not triggered. -/
theorem judge_of_fails_precondition (h : e.evaluator.Fails record r.precondition) :
    e.judge p r record = .settled r.notTriggered := by
  obtain ⟨c, hgiven, hfalse⟩ := h.exists_evaluate_eq_false
  have htriggers : e.triggers r record = false := by
    rw [triggers, hgiven, Option.all_some, hfalse]
  rw [judge, htriggers]
  rfl

/-- A rule over the record whose assertion cannot be evaluated has failed, unless code decides
it or it is not triggered. -/
theorem judge_of_fails_assertion (htriggers : e.triggers r record = true)
    (htype : r.type = .crossField ∨ r.type = .business)
    (hhandler : e.catalog.handler? r.id = none) (h : e.evaluator.Fails record r.assertion) :
    e.judge p r record =
      .settled (r.finding .rule false s!"{r.name} failed: {r.expression}" none) := by
  obtain ⟨c, hgiven, hfalse⟩ := h.exists_evaluate_eq_false
  have hfinding : Rule.assertionFinding e r record =
      r.finding .rule false s!"{r.name} failed: {r.expression}" none := by
    simp only [Rule.assertionFinding, hhandler, hgiven, hfalse, Bool.false_eq_true, if_false]
  rw [judge, if_pos htriggers, judgeTriggered]
  rcases htype with htype | htype <;> rw [htype, ← hfinding]

end Engine

/-! ### Fields -/

namespace Field

variable {f : Field} {e : Evaluator} {reportType : String} {record : Json}

/-- A conditional field whose condition cannot be evaluated gives findings about a value that
is there and nothing else. -/
theorem findings_of_condition_fails (hscope : f.appliesTo reportType = true)
    (hrequirement : f.requirement = .conditional) (h : e.Fails record f.condition) :
    f.findings e reportType record =
      (presentValue? record f.lookupPath).toList.flatMap f.constraintFindings := by
  obtain ⟨c, hgiven, hfalse⟩ := h.exists_evaluate_eq_false
  have heffective : f.effectiveRequirement e reportType record = .conditionalNotRequired := by
    simp only [effectiveRequirement, hscope, hrequirement, hgiven, hfalse, Bool.false_eq_true,
      if_true, if_false]
  rw [findings_of_appliesTo f e reportType record hscope, heffective]
  rfl

/-- Such a field gives no finding if its value is absent. -/
theorem findings_eq_nil_of_condition_fails (hscope : f.appliesTo reportType = true)
    (hrequirement : f.requirement = .conditional) (h : e.Fails record f.condition)
    (habsent : f.isAbsent record = true) : f.findings e reportType record = [] := by
  have hnone : presentValue? record f.lookupPath = none := by
    rw [← Option.not_isSome_iff_eq_none, isSome_presentValue?, Bool.not_eq_true,
      Bool.not_eq_false']
    exact habsent
  rw [findings_of_condition_fails hscope hrequirement h, hnone]
  rfl

end Field

/-! ### Findings of a record -/

/-- What conditions that cannot be evaluated do to the findings of a record, alone or in a
batch, whatever the package and the limit on nesting.

* A rule in scope whose precondition is one passes as not triggered.
* A rule in scope over the record whose assertion is one, and which is triggered and left to
  its assertion, has failed with the severity of the rule.
* A conditional field in scope whose condition is one is not required: it gives no finding if
  its value is absent, and else no others than about its value. -/
theorem Engine.findings_of_fails (e : Engine) (p : Package) (reportType : String)
    (record : Json) (batch : Option (String × Batch)) :
    (∀ r g, (r, g) ∈ (p.rulesFor reportType).zip
        (e.ruleFindingsOf p reportType record batch) →
      e.evaluator.Fails record r.precondition → g = r.notTriggered ∧ g.passed = true) ∧
    (∀ r g, (r, g) ∈ (p.rulesFor reportType).zip
        (e.ruleFindingsOf p reportType record batch) →
      e.triggers r record = true → r.type = .crossField ∨ r.type = .business →
      e.catalog.handler? r.id = none → e.evaluator.Fails record r.assertion →
      g.code = .rule ∧ g.severity = r.severity ∧ g.passed = false) ∧
    (∀ f ∈ p.fields, f.appliesTo reportType = true → f.requirement = .conditional →
      e.evaluator.Fails record f.condition →
      f.findings e.evaluator reportType record =
          (presentValue? record f.lookupPath).toList.flatMap f.constraintFindings ∧
        (f.isAbsent record = true → f.findings e.evaluator reportType record = [])) := by
  refine ⟨?_, ?_, ?_⟩
  · intro r g hpair hfails
    obtain rfl := eq_of_judge_settled hpair (judge_of_fails_precondition hfails)
    exact ⟨rfl, rfl⟩
  · intro r g hpair htriggers htype hhandler hfails
    obtain rfl := eq_of_judge_settled hpair
      (judge_of_fails_assertion htriggers htype hhandler hfails)
    exact ⟨rfl, rfl, rfl⟩
  · intro f _ hscope hrequirement hfails
    exact ⟨Field.findings_of_condition_fails hscope hrequirement hfails,
      Field.findings_eq_nil_of_condition_fails hscope hrequirement hfails⟩

/-- A package that asks for a clearing house when a trade is cleared, by a conditional field
and by a rule. Its condition has depth two. -/
def Package.nestedPackage : Package where
  id := "NESTED"
  regulationCode := "EMIR"
  version := "1"
  reportTypes := [{ code := "TRADE" }]
  fields := [
    { id := "ccp", requirement := .conditional
      condition := some (.not (.fieldNotExists "cleared")) }]
  rules := [
    { id := "R1", severity := .error, type := .required, affectedFields := ["ccp"]
      precondition := some (.not (.fieldNotExists "cleared")) }]

/-- A cleared trade without a clearing house. -/
def Package.nestedRecord : Json := .obj [("cleared", .str "Y")]

/-- The engine under a limit of one. -/
def Engine.flat : Engine := { evaluator := .ofLimit 1 }

/-- The condition of the package cannot be evaluated under a limit of one. -/
theorem Package.fails_nestedRecord :
    Engine.flat.evaluator.Fails nestedRecord (some (.not (.fieldNotExists "cleared"))) :=
  ⟨_, .depthExceeded 1, rfl, rfl⟩

/-- Under this limit the rule of the package is not triggered and its field may be left out. -/
theorem Package.nestedRecord_findings :
    (∃ r g, (r, g) ∈ (nestedPackage.rulesFor "TRADE").zip
        (Engine.flat.ruleFindingsOf nestedPackage "TRADE" nestedRecord none) ∧
      Engine.flat.evaluator.Fails nestedRecord r.precondition ∧ g = r.notTriggered) ∧
    (∃ f ∈ nestedPackage.fields, Engine.flat.evaluator.Fails nestedRecord f.condition ∧
      f.isAbsent nestedRecord = true ∧
      f.findings Engine.flat.evaluator "TRADE" nestedRecord = []) := by
  obtain ⟨hrules, _, hfields⟩ :=
    Engine.findings_of_fails Engine.flat nestedPackage "TRADE" nestedRecord none
  have habsent : (nestedPackage.fields.head (by decide)).isAbsent nestedRecord = true := by
    decide +kernel
  constructor
  · exact ⟨_, _, List.mem_cons_self, fails_nestedRecord,
      (hrules _ _ List.mem_cons_self fails_nestedRecord).1⟩
  · exact ⟨_, List.mem_cons_self, fails_nestedRecord, habsent,
      (hfields _ List.mem_cons_self (by decide) rfl fails_nestedRecord).2 habsent⟩

/-- The package is accepted, and a record that breaks both its field and its rule passes under
a limit of one: the finding of the rule has passed although its precondition cannot be
evaluated, and the field gives no finding although its condition cannot be evaluated and its
value is absent. -/
theorem Package.nestedRecord_passes :
    nestedPackage.verify = .ok () ∧
    (∃ r g, (r, g) ∈ (nestedPackage.rulesFor "TRADE").zip
        (Engine.flat.ruleFindingsOf nestedPackage "TRADE" nestedRecord none) ∧
      Engine.flat.evaluator.Fails nestedRecord r.precondition ∧ g.passed = true) ∧
    (∃ f ∈ nestedPackage.fields, f.appliesTo "TRADE" = true ∧ f.requirement = .conditional ∧
      Engine.flat.evaluator.Fails nestedRecord f.condition ∧ f.isAbsent nestedRecord = true ∧
      ¬ ∃ g ∈ f.findings Engine.flat.evaluator "TRADE" nestedRecord, g.passed = false) ∧
    (Engine.flat.validate nestedPackage none nestedRecord).toOption.map (·.overallStatus) =
      some .pass := by
  refine ⟨by decide +kernel, ?_, ?_, by decide +kernel⟩
  · exact ⟨_, _, List.mem_cons_self, fails_nestedRecord, rfl⟩
  · refine ⟨_, List.mem_cons_self, by decide, rfl, fails_nestedRecord, by decide +kernel, ?_⟩
    decide +kernel

end RegulatoryReporting
