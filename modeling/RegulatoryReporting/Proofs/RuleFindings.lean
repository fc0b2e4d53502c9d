import Mathlib.Data.List.Forall2
import RegulatoryReporting.Validation.Record

/-!
# The Findings of Rules

A rule in scope gives one finding for a record, alone or in a batch. There are four ways in
which it can end: the rule was executed, its key occurred before in the batch, it was not
triggered, or it could not be executed. Only the last one departs from the severity of the
rule, and only the third one always passes. This module proves the classification, once for
every type of rule, and relates the findings of a record to the rules position by position.

## Main results

* `Judgement.IsAbout.finds_settleAlone`, `Judgement.IsAbout.finds_settleIn` — every finding
  about a rule ends in one of the four ways.
* `Judgement.settleAllIn_append` — settling judgements in turn, the batch of the first ones
  going to the later ones.
* `Engine.forall₂_ruleFindingsOf_of_settle` — findings stand where their rules stand.
* `Engine.forall₂_ruleFindingsOf` — one finding for each rule in scope, in their order.
* `Engine.eq_of_judge_settled` — a finding that the record alone settles.
-/

namespace RegulatoryReporting

/-- The rules of a package that belong to a report type, in their order. -/
def Package.rulesFor (p : Package) (reportType : String) : List Rule :=
  p.rules.filter fun r => r.appliesTo reportType

/-- What stands at a place is the text of the value that is there, if it has one. -/
theorem Content.ofPlace_eq (place : Option Json) :
    ofPlace place = (place.filter fun v => !Json.isAbsent (some v)).elim .absent fun v =>
      v.scalarText?.elim (.compound v.print) .scalar := by
  cases place with
  | none => rfl
  | some v =>
    rw [ofPlace, Option.filter_some]
    cases Json.isAbsent (some v) with
    | true => rfl
    | false =>
      rw [Bool.not_false, if_pos rfl, if_neg Bool.false_ne_true, Option.elim_some]
      cases v.scalarText? <;> rfl

/-- How a finding about a rule can end. -/
inductive Rule.Finds (r : Rule) (f : Finding) : Prop
  /-- The rule was executed. -/
  | executed (subject : f.subject = r.id) (code : f.code = .rule)
      (severity : f.severity = r.severity)
  /-- The key of a uniqueness rule occurred before. -/
  | duplicate (type : r.type = .uniqueness) (subject : f.subject = r.id)
      (code : f.code = .duplicate) (severity : f.severity = r.severity) (passed : f.passed = false)
  /-- The precondition of the rule does not hold. -/
  | notTriggered (subject : f.subject = r.id) (code : f.code = .ruleNotTriggered)
      (severity : f.severity = r.severity) (passed : f.passed = true)
  /-- Something is missing for the rule to be executed. -/
  | notAutomated (subject : f.subject = r.id) (code : f.code = .ruleNotAutomated)
      (severity : f.severity = .info) (passed : f.passed = false)

namespace Rule

/-! ### Findings by type -/

variable {r : Rule} {e : Engine} {p : Package} {record : Json} {values : List AffectedValue}

/-- A finding with the code of executed rules is that of an executed rule. -/
theorem finds_finding {passed : Bool} {message : String} {path : Option String} :
    r.Finds (r.finding .rule passed message path) :=
  .executed rfl rfl rfl

/-- A rule that cannot be executed is not automated, for whatever reason. -/
theorem finds_notAutomated {reason : String} : r.Finds (r.notAutomated reason) :=
  .notAutomated rfl rfl rfl rfl

/-- A rule that checks values is executed, and passes if there is no objection. -/
theorem valueFinding_header (checks : List (AffectedValue × TextCheck)) :
    (r.valueFinding checks).subject = r.id ∧ (r.valueFinding checks).code = .rule ∧
      (r.valueFinding checks).severity = r.severity ∧
      ((r.valueFinding checks).passed = true ↔ objections checks = []) := by
  rw [valueFinding]
  split
  next hnil => exact ⟨rfl, rfl, rfl, by simp [finding, hnil]⟩
  next hcons => exact ⟨rfl, rfl, rfl, by simp [finding, hcons]⟩

/-- Checking values is executing the rule. -/
theorem finds_valueFinding {checks : List (AffectedValue × TextCheck)} :
    r.Finds (r.valueFinding checks) := by
  obtain ⟨hsubject, hcode, hseverity, -⟩ := valueFinding_header (r := r) checks
  exact .executed hsubject hcode hseverity

/-- A format rule is executed if it has validators. -/
theorem finds_formatFinding : r.Finds (formatFinding e r values) := by
  rw [formatFinding]
  split
  · exact finds_notAutomated
  · exact finds_valueFinding

/-- A value list rule is executed if it has lists. -/
theorem finds_valueListFinding : r.Finds (valueListFinding e p r values) := by
  rw [valueListFinding]
  split
  · exact finds_valueFinding
  · split
    · exact finds_notAutomated
    · exact finds_notAutomated
    · exact finds_valueFinding

/-- A reference rule is executed if it has a register that can be asked. -/
theorem finds_referenceFinding : r.Finds (referenceFinding e r values) := by
  rw [referenceFinding]
  split
  · exact finds_notAutomated
  · exact finds_notAutomated
  · exact finds_valueFinding

/-- A rule that wants values is executed. -/
theorem finds_requiredFinding : r.Finds (requiredFinding r values) := by
  rw [requiredFinding]
  split <;> exact finds_finding

/-- A rule over the record is executed if there is code or an assertion. -/
theorem finds_assertionFinding : r.Finds (assertionFinding e r record) := by
  rw [assertionFinding]
  split
  · exact finds_finding
  · split <;> exact finds_finding
  · exact finds_notAutomated

/-- A uniqueness rule is executed if its key is new, else the key is a duplicate. -/
theorem finds_keyFinding (hr : r.type = .uniqueness) {parts : List String} {path : String}
    {first : Option String} : r.Finds (r.keyFinding parts path first) := by
  cases first with
  | none => exact finds_finding
  | some _ => exact .duplicate hr rfl rfl rfl rfl

end Rule

/-! ### Judgements -/

/-- A judgement about a rule: it is settled by a finding of the rule that is no duplicate,
or it is the key of the uniqueness rule itself. -/
inductive Judgement.IsAbout (r : Rule) : Judgement → Prop
  | settled {f : Finding} (h : r.Finds f) (code : f.code ≠ .duplicate) : IsAbout r (.settled f)
  | keyed {key : Option (List String)} {path : String} (h : r.type = .uniqueness) :
      IsAbout r (.keyed r key path)

/-- A finding about a rule has the rule as its subject. -/
theorem Rule.Finds.subject_eq {r : Rule} {f : Finding} (h : r.Finds f) : f.subject = r.id := by
  cases h with
  | executed hsubject _ _ | duplicate _ hsubject _ _ _ | notTriggered hsubject _ _ _
  | notAutomated hsubject _ _ _ => exact hsubject

/-- Only uniqueness rules find duplicates. -/
theorem Rule.Finds.code_ne_duplicate {r : Rule} {f : Finding} (h : r.Finds f)
    (htype : r.type ≠ .uniqueness) : f.code ≠ .duplicate := by
  cases h with
  | executed _ hcode _ | notTriggered _ hcode _ _ | notAutomated _ hcode _ _ =>
    rw [hcode]
    decide
  | duplicate hunique _ _ _ _ => exact absurd hunique htype

/-- What a record says about a rule is about this rule. -/
theorem Engine.isAbout_judge (e : Engine) (p : Package) (r : Rule) (record : Json) :
    (e.judge p r record).IsAbout r := by
  have hsettled : ∀ f, r.Finds f → r.type ≠ .uniqueness → (Judgement.settled f).IsAbout r :=
    fun f hf htype => .settled hf (hf.code_ne_duplicate htype)
  rw [Engine.judge]
  split
  · rw [Engine.judgeTriggered]
    cases htype : r.type with
    | format => exact hsettled _ Rule.finds_formatFinding (by simp [htype])
    | enum | enumeration => exact hsettled _ Rule.finds_valueListFinding (by simp [htype])
    | referential => exact hsettled _ Rule.finds_referenceFinding (by simp [htype])
    | crossField | business => exact hsettled _ Rule.finds_assertionFinding (by simp [htype])
    | required => exact hsettled _ Rule.finds_requiredFinding (by simp [htype])
    | uniqueness => exact .keyed htype
  · exact .settled (.notTriggered rfl rfl rfl rfl) (by simp [Rule.notTriggered, Rule.finding])

namespace Judgement

variable {r : Rule} {j : Judgement}

/-- Without a batch, a judgement about a rule gives a finding of the rule. -/
theorem IsAbout.finds_settleAlone (h : j.IsAbout r) : r.Finds j.settleAlone := by
  cases h with
  | settled hf _ => exact hf
  | keyed _ => exact Rule.finds_notAutomated

/-- In a batch, a judgement about a rule gives a finding of the rule. -/
theorem IsAbout.finds_settleIn (h : j.IsAbout r) (label : String) (b : Batch) :
    r.Finds (j.settleIn label b).1 := by
  cases h with
  | settled hf _ => exact hf
  | @keyed key path htype => cases key with
    | none => exact Rule.finds_finding
    | some parts => exact Rule.finds_keyFinding htype

/-- The batch of the first judgement goes to the others. -/
theorem settleAllIn_cons (label : String) (j : Judgement) (js : List Judgement) (b : Batch) :
    settleAllIn label (j :: js) b =
      ((j.settleIn label b).1 :: (settleAllIn label js (j.settleIn label b).2).1,
        (settleAllIn label js (j.settleIn label b).2).2) := rfl

/-- Judgements are settled one after the other. -/
theorem settleAllIn_append (label : String) (js ks : List Judgement) (b : Batch) :
    settleAllIn label (js ++ ks) b =
      ((settleAllIn label js b).1 ++ (settleAllIn label ks (settleAllIn label js b).2).1,
        (settleAllIn label ks (settleAllIn label js b).2).2) := by
  induction js generalizing b with
  | nil => rfl
  | cons j js ih => simp only [List.cons_append, settleAllIn, ih]

/-- Every judgement gives one finding. -/
@[simp] theorem length_settleAllIn (label : String) (js : List Judgement) (b : Batch) :
    (settleAllIn label js b).1.length = js.length := by
  induction js generalizing b with
  | nil => rfl
  | cons j js ih => simp only [settleAllIn, List.length_cons, ih]

end Judgement

/-! ### The findings of a record -/

namespace Engine

/-- The findings of a record about the rules of a report type: alone, or under a label in a
batch. -/
def ruleFindingsOf (e : Engine) (p : Package) (reportType : String) (record : Json) :
    Option (String × Batch) → List Finding
  | none => e.ruleFindings p reportType record
  | some (label, b) => (Judgement.settleAllIn label (e.judgeAll p reportType record) b).1

/-- Findings stand where their rules stand: what holds of every rule and of the finding to
which its judgement is settled, alone or in every batch, holds of the rules in scope and of
the findings of a record that is validated so, position by position. -/
theorem forall₂_ruleFindingsOf_of_settleBy {e : Engine} {p : Package} {record : Json}
    (related : Bool → Rule → Finding → Prop)
    (halone : ∀ r, related false r (e.judge p r record).settleAlone)
    (hin : ∀ r label b, related true r ((e.judge p r record).settleIn label b).1)
    (reportType : String) (batch : Option (String × Batch)) :
    List.Forall₂ (related batch.isSome) (p.rulesFor reportType)
      (e.ruleFindingsOf p reportType record batch) := by
  cases batch with
  | none =>
    rw [ruleFindingsOf, ruleFindings, judgeAll, List.map_map, List.forall₂_map_right_iff]
    exact List.forall₂_same.2 fun r _ => halone r
  | some place =>
    obtain ⟨label, b⟩ := place
    rw [Option.isSome_some, ruleFindingsOf, judgeAll, ← Package.rulesFor]
    generalize p.rulesFor reportType = rs
    induction rs generalizing b with
    | nil => exact .nil
    | cons r rs ih => exact .cons (hin r label b) (ih _)

/-- The same for what holds of a finding both alone and in every batch. -/
theorem forall₂_ruleFindingsOf_of_settle {e : Engine} {p : Package} {record : Json}
    {related : Rule → Finding → Prop}
    (halone : ∀ r, related r (e.judge p r record).settleAlone)
    (hin : ∀ r label b, related r ((e.judge p r record).settleIn label b).1)
    (reportType : String) (batch : Option (String × Batch)) :
    List.Forall₂ related (p.rulesFor reportType)
      (e.ruleFindingsOf p reportType record batch) :=
  forall₂_ruleFindingsOf_of_settleBy (fun _ => related) halone hin reportType batch

/-- A record has one finding for each rule in scope, in the order of the rules. -/
theorem forall₂_ruleFindingsOf (e : Engine) (p : Package) (reportType : String) (record : Json)
    (batch : Option (String × Batch)) :
    List.Forall₂ Rule.Finds (p.rulesFor reportType)
      (e.ruleFindingsOf p reportType record batch) :=
  forall₂_ruleFindingsOf_of_settle (fun r => (e.isAbout_judge p r record).finds_settleAlone)
    (fun r => (e.isAbout_judge p r record).finds_settleIn) reportType batch

/-- Where the record alone settles a rule, the finding is the same alone and in a batch. -/
theorem eq_of_judge_settled {e : Engine} {p : Package} {record : Json} {reportType : String}
    {batch : Option (String × Batch)} {r : Rule} {g f : Finding}
    (hpair : (r, g) ∈ (p.rulesFor reportType).zip (e.ruleFindingsOf p reportType record batch))
    (h : e.judge p r record = .settled f) : g = f := by
  let settles (r : Rule) (g : Finding) : Prop := ∀ f, e.judge p r record = .settled f → g = f
  have hall : List.Forall₂ settles (p.rulesFor reportType)
      (e.ruleFindingsOf p reportType record batch) := by
    refine forall₂_ruleFindingsOf_of_settle (fun r f hf => ?_) (fun r label b f hf => ?_) _ _
    · rw [hf, Judgement.settleAlone]
    · rw [hf, Judgement.settleIn]
  exact List.forall₂_zip hall hpair f h

end Engine

end RegulatoryReporting
