import RegulatoryReporting.Proofs.Collecting
import RegulatoryReporting.Proofs.RuleFindings

/-!
# Which Rules Are Executed

No rule in scope is passed over: each gives one finding, and a rule for which the engine lacks
something says so. This module says what can be lacking (`Engine.Lacks`): a format rule needs
validators, a value list rule an entry of the catalogue or a list at each of its affected
fields, a reference rule a register that can be asked, a rule over the record code or an
assertion, and a uniqueness rule a batch. A rule that is triggered and lacks nothing is
executed, and a rule is triggered unless its precondition evaluates to false.

## Main results

* `Rule.isOutcome_formatFinding` and its like — each type of rule is not automated exactly if
  it lacks what it needs.
* `Engine.exists_isOutcome_judgeTriggered` — the same for every rule that is triggered.
* `Engine.accounts_ruleFindingsOf` — one finding for each rule in scope, and how it ends.
-/

namespace RegulatoryReporting

/-- The field of an id limits its values to a list. -/
def Package.DeclaresValues (p : Package) (field : String) : Prop :=
  ∃ f allowed, p.field? field = some f ∧ f.allowedValues = some allowed ∧ allowed ≠ []

/-- What is lacking for a rule to be executed, given whether there is a batch. -/
def Engine.Lacks (e : Engine) (p : Package) (r : Rule) (inBatch : Bool) : Prop :=
  match r.type with
  -- Validators come from the entry of the rule, else from a keyword in its text.
  | .format => e.catalog.validatorsFor r = []
  | .enum | .enumeration =>
    e.catalog.valueList? r.id = none ∧
      (r.affectedFields = [] ∨ ∃ field ∈ r.affectedFields, ¬ p.DeclaresValues field)
  | .referential => e.catalog.registerFor? r = none ∨ e.reference = none
  | .crossField | .business => e.catalog.handler? r.id = none ∧ r.assertion = none
  | .required => False
  | .uniqueness => inBatch = false

/-- The finding of a rule that is triggered: not automated if something is lacking, that of an
executed rule otherwise. -/
structure Finding.IsOutcome (g : Finding) (lacks : Prop) : Prop where
  /-- What is lacking is reported. -/
  of_lacks : lacks → g.code = .ruleNotAutomated
  /-- If nothing is lacking, the rule is executed. -/
  of_not_lacks : ¬ lacks → g.code = .rule ∨ g.code = .duplicate

namespace Finding.IsOutcome

variable {g : Finding} {lacks : Prop}

/-- Something is lacking exactly if it is reported. -/
theorem code_eq_ruleNotAutomated_iff (h : g.IsOutcome lacks) :
    g.code = .ruleNotAutomated ↔ lacks := by
  refine ⟨fun hcode => ?_, h.of_lacks⟩
  by_contra hnone
  rcases h.of_not_lacks hnone with hrule | hduplicate
  · rw [hrule] at hcode
    cases hcode
  · rw [hduplicate] at hcode
    cases hcode

/-- A rule that is triggered is not reported as one that is not. -/
theorem code_ne_ruleNotTriggered (h : g.IsOutcome lacks) : g.code ≠ .ruleNotTriggered := by
  intro hcode
  by_cases hlacks : lacks
  · rw [h.of_lacks hlacks] at hcode
    cases hcode
  · rcases h.of_not_lacks hlacks with hrule | hduplicate
    · rw [hrule] at hcode
      cases hcode
    · rw [hduplicate] at hcode
      cases hcode

/-- What is lacking may be said in other words. -/
theorem congr {others : Prop} (h : g.IsOutcome lacks) (hsame : lacks ↔ others) :
    g.IsOutcome others :=
  ⟨fun hothers => h.of_lacks (hsame.2 hothers), fun hnone => h.of_not_lacks (mt hsame.1 hnone)⟩

end Finding.IsOutcome

namespace Rule

variable {r : Rule} {e : Engine} {p : Package} {record : Json} {values : List AffectedValue}
  {lacks : Prop}

/-! ### Findings by type -/

/-- A rule for which something is lacking. -/
theorem isOutcome_notAutomated {reason : String} (h : lacks) :
    (r.notAutomated reason).IsOutcome lacks :=
  ⟨fun _ => rfl, fun hnone => absurd h hnone⟩

/-- A rule for which nothing is lacking. -/
theorem isOutcome_of_code {g : Finding} (h : ¬ lacks) (hcode : g.code = .rule) :
    g.IsOutcome lacks :=
  ⟨fun hlacks => absurd hlacks h, fun _ => .inl hcode⟩

/-- A rule that checks values lacks nothing. -/
theorem isOutcome_valueFinding {checks : List (AffectedValue × TextCheck)} (h : ¬ lacks) :
    (r.valueFinding checks).IsOutcome lacks :=
  isOutcome_of_code h (valueFinding_header checks).2.1

/-- A format rule lacks nothing but validators. -/
theorem isOutcome_formatFinding :
    (formatFinding e r values).IsOutcome (e.catalog.validatorsFor r = []) := by
  rw [formatFinding]
  split
  next hnone => exact isOutcome_notAutomated hnone
  next hsome => exact isOutcome_valueFinding hsome

/-- A field has values to be checked against exactly if it declares some. -/
theorem bind_valueList?_eq_none_iff {field : String} :
    ((p.field? field).bind Field.valueList?) = none ↔ ¬ p.DeclaresValues field := by
  rw [Package.DeclaresValues]
  cases hfield : p.field? field with
  | none => simp
  | some f =>
    rw [Option.bind_some, Field.valueList?]
    cases hvalues : f.allowedValues with
    | none => simp [hvalues]
    | some allowed => cases allowed <;> simp [hvalues]

/-- Values can be checked against declared lists unless the field of one of them has none. -/
theorem declaredChecks?_eq_none_iff :
    declaredChecks? p values = none ↔ ∃ v ∈ values, ¬ p.DeclaresValues v.field := by
  rw [declaredChecks?, mapM_eq_none_iff]
  refine exists_congr fun v => and_congr_right fun _ => ?_
  rw [← bind_valueList?_eq_none_iff]
  cases p.field? v.field with
  | none => simp
  | some f => cases hlist : f.valueList? <;> simp [hlist]

/-- Only where there are no values there are no checks. -/
theorem declaredChecks?_eq_some_nil_iff : declaredChecks? p values = some [] ↔ values = [] := by
  rw [declaredChecks?, mapM_eq_some_iff, List.forall₂_nil_right_iff]

/-- A value list rule lacks nothing but values: an entry of the catalogue, or lists at all of
its affected fields, of which there must be some. -/
theorem isOutcome_valueListFinding :
    (valueListFinding e p r values).IsOutcome
      (e.catalog.valueList? r.id = none ∧
        (values = [] ∨ ∃ v ∈ values, ¬ p.DeclaresValues v.field)) := by
  rw [← declaredChecks?_eq_some_nil_iff (p := p), ← declaredChecks?_eq_none_iff, valueListFinding]
  cases e.catalog.valueList? r.id with
  | some allowed => exact isOutcome_valueFinding (by simp)
  | none =>
    cases declaredChecks? p values with
    | none => exact isOutcome_notAutomated ⟨rfl, .inr rfl⟩
    | some checks =>
      cases checks with
      | nil => exact isOutcome_notAutomated ⟨rfl, .inl rfl⟩
      | cons check checks => exact isOutcome_valueFinding (by simp)

/-- A reference rule lacks nothing but a register that can be asked. -/
theorem isOutcome_referenceFinding :
    (referenceFinding e r values).IsOutcome
      (e.catalog.registerFor? r = none ∨ e.reference = none) := by
  rw [referenceFinding]
  cases e.catalog.registerFor? r with
  | none => exact isOutcome_notAutomated (.inl rfl)
  | some kind =>
    cases e.reference with
    | none => exact isOutcome_notAutomated (.inr rfl)
    | some known => exact isOutcome_valueFinding (by simp)

/-- A rule over the record lacks nothing but code or an assertion. -/
theorem isOutcome_assertionFinding :
    (assertionFinding e r record).IsOutcome
      (e.catalog.handler? r.id = none ∧ r.assertion = none) := by
  rw [assertionFinding]
  cases e.catalog.handler? r.id with
  | some handler => exact isOutcome_of_code (by simp) rfl
  | none =>
    cases r.assertion with
    | none => exact isOutcome_notAutomated ⟨rfl, rfl⟩
    | some assertion =>
      refine isOutcome_of_code (by simp) ?_
      simp only
      split <;> rfl

/-- A rule that wants values lacks nothing. -/
theorem isOutcome_requiredFinding : (requiredFinding r values).IsOutcome False := by
  rw [requiredFinding]
  split <;> exact isOutcome_of_code not_false rfl

/-- A uniqueness rule lacks nothing in a batch. -/
theorem isOutcome_keyFinding {parts : List String} {path : String} {first : Option String}
    (h : ¬ lacks) : (r.keyFinding parts path first).IsOutcome lacks := by
  refine ⟨fun hlacks => absurd hlacks h, fun _ => ?_⟩
  cases first with
  | none => exact .inl rfl
  | some first => exact .inr rfl

end Rule

/-! ### Rules that are triggered -/

namespace Package

variable (p : Package) (r : Rule) (record : Json)

/-- There are as many affected values as affected fields. -/
theorem affectedValues_eq_nil_iff : p.affectedValues r record = [] ↔ r.affectedFields = [] :=
  List.map_eq_nil_iff

/-- The affected values that cannot be checked against a list are those of the fields without
one. -/
theorem exists_undeclared_affectedValues_iff :
    (∃ v ∈ p.affectedValues r record, ¬ p.DeclaresValues v.field) ↔
      ∃ field ∈ r.affectedFields, ¬ p.DeclaresValues field := by
  simp [affectedValues]

end Package

namespace Engine

variable {e : Engine} {p : Package} {r : Rule} {record : Json}

/-- A rule is checked unless it has a precondition that does not hold. -/
theorem triggers_eq_false_iff :
    e.triggers r record = false ↔
      ∃ c, r.precondition = some c ∧ e.evaluator.evaluate c record = false := by
  rw [triggers]
  cases r.precondition <;> simp

/-- A rule is checked if it has no precondition or one that holds. -/
theorem triggers_eq_true_iff :
    e.triggers r record = true ↔
      ∀ c, r.precondition = some c → e.evaluator.evaluate c record = true := by
  rw [triggers]
  cases r.precondition <;> simp

/-- A rule that is triggered and looks at no other record ends as it must, whether or not
there is a batch. -/
theorem exists_isOutcome_judgeTriggered (htype : r.type ≠ .uniqueness) (inBatch : Bool) :
    ∃ g, e.judgeTriggered p r record = .settled g ∧ g.IsOutcome (e.Lacks p r inBatch) := by
  rw [judgeTriggered, Lacks]
  cases h : r.type with
  | format => exact ⟨_, rfl, Rule.isOutcome_formatFinding⟩
  | enum | enumeration =>
    refine ⟨_, rfl, Rule.isOutcome_valueListFinding.congr ?_⟩
    rw [p.affectedValues_eq_nil_iff, p.exists_undeclared_affectedValues_iff]
  | referential => exact ⟨_, rfl, Rule.isOutcome_referenceFinding⟩
  | crossField | business => exact ⟨_, rfl, Rule.isOutcome_assertionFinding⟩
  | required => exact ⟨_, rfl, Rule.isOutcome_requiredFinding⟩
  | uniqueness => exact absurd h htype

/-- A uniqueness rule that is triggered is judged by its key. -/
theorem judgeTriggered_of_uniqueness (htype : r.type = .uniqueness) :
    e.judgeTriggered p r record = .keyed r (Rule.key? (p.affectedValues r record))
      (Rule.keyPath (p.affectedValues r record)) := by
  rw [judgeTriggered, htype]

/-- A uniqueness rule lacks nothing but a batch. -/
theorem lacks_of_uniqueness (htype : r.type = .uniqueness) {inBatch : Bool} :
    e.Lacks p r inBatch ↔ inBatch = false := by
  rw [Lacks, htype]

/-- How a rule ends that is triggered by a record that is validated alone. -/
theorem isOutcome_settleAlone :
    (e.judgeTriggered p r record).settleAlone.IsOutcome (e.Lacks p r false) := by
  by_cases htype : r.type = .uniqueness
  · rw [judgeTriggered_of_uniqueness htype]
    exact Rule.isOutcome_notAutomated ((lacks_of_uniqueness htype).2 rfl)
  · obtain ⟨g, hg, houtcome⟩ := exists_isOutcome_judgeTriggered htype false
    rw [hg]
    exact houtcome

/-- How a rule ends that is triggered by a record of a batch. -/
theorem isOutcome_settleIn (label : String) (b : Batch) :
    ((e.judgeTriggered p r record).settleIn label b).1.IsOutcome (e.Lacks p r true) := by
  by_cases htype : r.type = .uniqueness
  · have hnone : ¬ e.Lacks p r true := by simp [lacks_of_uniqueness htype]
    rw [judgeTriggered_of_uniqueness htype]
    cases Rule.key? (p.affectedValues r record) with
    | none => exact Rule.isOutcome_of_code hnone rfl
    | some parts => exact Rule.isOutcome_keyFinding hnone
  · obtain ⟨g, hg, houtcome⟩ := exists_isOutcome_judgeTriggered htype true
    rw [hg]
    exact houtcome

/-! ### Every rule in scope -/

/-- How a finding accounts for a rule, given whether the record belongs to a batch. -/
structure Accounts (e : Engine) (p : Package) (record : Json) (inBatch : Bool) (r : Rule)
    (g : Finding) : Prop where
  /-- The finding names the rule. -/
  subject : g.subject = r.id
  /-- A rule is not triggered exactly if it has a precondition that evaluates to false. -/
  notTriggered_iff : g.code = .ruleNotTriggered ↔
    ∃ c, r.precondition = some c ∧ e.evaluator.evaluate c record = false
  /-- A rule that is not triggered passes. -/
  passed_of_notTriggered : g.code = .ruleNotTriggered → g.passed = true
  /-- A rule is not automated exactly if it is triggered and something is lacking. -/
  notAutomated_iff : g.code = .ruleNotAutomated ↔
    (∀ c, r.precondition = some c → e.evaluator.evaluate c record = true) ∧
      e.Lacks p r inBatch
  /-- A rule that is not automated fails, for information only. -/
  info_of_notAutomated : g.code = .ruleNotAutomated → g.passed = false ∧ g.severity = .info
  /-- Every other rule is executed. -/
  executed : g.code ≠ .ruleNotTriggered → g.code ≠ .ruleNotAutomated →
    g.code = .rule ∨ g.code = .duplicate
  /-- Duplicates are failures of uniqueness rules. -/
  of_duplicate : g.code = .duplicate → r.type = .uniqueness ∧ g.passed = false
  /-- Unless something is lacking, the severity is that of the rule. -/
  severity : g.code ≠ .ruleNotAutomated → g.severity = r.severity

/-- A finding about a rule accounts for it if it tells whether the rule is triggered and, if
so, whether something is lacking. -/
theorem accounts_of_finds {g : Finding} {inBatch : Bool} (hfinds : r.Finds g)
    (hoff : e.triggers r record = false → g.code = .ruleNotTriggered)
    (hon : e.triggers r record = true → g.IsOutcome (e.Lacks p r inBatch)) :
    e.Accounts p record inBatch r g := by
  have htriggered : g.code = .ruleNotTriggered ↔ e.triggers r record = false := by
    refine ⟨fun hcode => ?_, hoff⟩
    rw [← Bool.not_eq_true]
    exact fun htrue => (hon htrue).code_ne_ruleNotTriggered hcode
  have hautomated : g.code = .ruleNotAutomated ↔
      e.triggers r record = true ∧ e.Lacks p r inBatch := by
    cases htriggers : e.triggers r record with
    | false => simp [hoff htriggers]
    | true => simp [(hon htriggers).code_eq_ruleNotAutomated_iff]
  constructor
  case subject => exact hfinds.subject_eq
  case notTriggered_iff => rw [htriggered, triggers_eq_false_iff]
  case notAutomated_iff => rw [hautomated, triggers_eq_true_iff]
  -- What remains can be read off the way in which the finding ends.
  all_goals
    rcases hfinds with ⟨_, hcode, hseverity⟩ | ⟨htype, _, hcode, hseverity, hpassed⟩ |
      ⟨_, hcode, hseverity, hpassed⟩ | ⟨_, hcode, hseverity, hpassed⟩ <;> simp_all

/-- Every rule in scope is accounted for by one finding: the findings of a record, alone or in
a batch, stand where their rules stand. -/
theorem accounts_ruleFindingsOf (e : Engine) (p : Package) (reportType : String)
    (record : Json) (batch : Option (String × Batch)) :
    List.Forall₂ (e.Accounts p record batch.isSome) (p.rulesFor reportType)
      (e.ruleFindingsOf p reportType record batch) := by
  refine forall₂_ruleFindingsOf_of_settleBy (e.Accounts p record) (fun r => ?alone)
    (fun r label b => ?member) reportType batch
  case alone =>
    refine accounts_of_finds (e.isAbout_judge p r record).finds_settleAlone (fun hoff => ?_)
      fun hon => ?_
    · rw [judge, if_neg (by simp [hoff])]
      rfl
    · rw [judge, if_pos hon]
      exact isOutcome_settleAlone
  case member =>
    refine accounts_of_finds ((e.isAbout_judge p r record).finds_settleIn label b)
      (fun hoff => ?_) fun hon => ?_
    · rw [judge, if_neg (by simp [hoff])]
      rfl
    · rw [judge, if_pos hon]
      exact isOutcome_settleIn label b

end Engine

end RegulatoryReporting
