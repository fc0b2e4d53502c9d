import Mathlib.Data.List.Basic
import RegulatoryReporting.Validation.Field

/-!
# The Findings of Fields

What the findings about a field say about the record. A field in scope gives a failed error
for one of two reasons: it is required and its value is absent, or its value is present and
breaks a constraint. It never gives a failed warning: a requirement that cannot be decided is
reported for information only.

`Field.Breaks` says what breaking the constraint of a code means without reference to the
checks, and `Field.Violates` what breaking any of them means. The text of the value is trimmed
before it is compared, and so are the values of a list.

## Main results

* `Field.exists_textFindings_eq` — a text is checked four times, each check has its own code.
* `Field.sublist_codes`, `Field.mem_codes_iff` — the broken constraints are reported, in order.
* `Field.constraintFindings_ne_nil_iff` — constraints are reported exactly when violated.
* `Field.exists_isFailureAt_findings_iff` — which fields give failed errors.
* `Field.not_isFailureAt_warning` — no field gives a failed warning.
* `Field.countP_mandatoryMissing`, `Field.countP_requirementUnresolvable` — how often the two
  counted codes occur among the findings of a field.
-/

namespace RegulatoryReporting

/-- A value is present exactly when it is not absent. -/
theorem isSome_presentValue? (record : Json) (path : String) :
    (presentValue? record path).isSome = !Json.isAbsent (resolve record path) := by
  rw [presentValue?]
  cases hplace : resolve record path with
  | none => rfl
  | some v => cases habsent : Json.isAbsent (some v) <;> simp [habsent]

/-- No value is there exactly when the place is absent. -/
theorem presentValue?_eq_none_iff {record : Json} {path : String} :
    presentValue? record path = none ↔ Json.isAbsent (resolve record path) = true := by
  rw [← Option.not_isSome_iff_eq_none, isSome_presentValue?]
  simp

namespace Field

/-- A value must be there: the field is mandatory, or conditional with a condition that
holds. -/
def IsRequired (f : Field) (e : Evaluator) (record : Json) : Prop :=
  f.requirement = .mandatory ∨
    f.requirement = .conditional ∧ ∃ c, f.condition = some c ∧ e.evaluate c record = true

/-- How a text breaks a constraint of a field. -/
inductive TextViolates (f : Field) (text : String) : Prop
  /-- The pattern compiles and does not match. -/
  | pattern {source : String} {pattern : Pattern} (given : f.pattern = some source)
      (compiled : Pattern.ofText? source = some pattern) (h : pattern.isMatch text = false)
  /-- The text has too many characters. -/
  | tooLong {most : Nat} (given : f.maxLength = some most) (h : most < text.length)
  /-- The text has too few characters. -/
  | tooShort {least : Nat} (given : f.minLength = some least) (h : text.length < least)
  /-- The list is not empty, and the text is none of its values, blanks around them aside. -/
  | notListed {allowed : List String} (given : f.allowedValues = some allowed)
      (some_value : allowed ≠ []) (h : ∀ value ∈ allowed, Text.trim value ≠ text)

/-- How a value breaks a constraint of a field. -/
inductive Violates (f : Field) (v : Json) : Prop
  /-- There are constraints, and the value has no text. -/
  | noScalar (constrained : f.hasConstraints = true) (h : v.scalarText? = none)
  /-- The text of the value, trimmed, breaks a constraint. -/
  | text {text : String} (scalar : v.scalarText? = some text)
      (h : f.TextViolates (Text.trim text))

/-- The value of the field is there and breaks a constraint. -/
def IsViolated (f : Field) (record : Json) : Prop :=
  ∃ v, presentValue? record f.lookupPath = some v ∧ f.Violates v

/-- The value of the field is absent. -/
def isAbsent (f : Field) (record : Json) : Bool := Json.isAbsent (resolve record f.lookupPath)

variable {f : Field}

/-! ### Constraints -/

/-- The codes of findings about constraints, in the order in which they are checked. -/
def constraintCodes : List FindingCode := [.pattern, .maxLength, .minLength, .enumValue]

/-- A text breaks the constraint of a field that is reported under a code. Lengths are counted
in characters, and the blanks around the values of a list do not count. -/
def Breaks (f : Field) (text : String) : FindingCode → Prop
  | .pattern => ∃ source pattern, f.pattern = some source ∧
      Pattern.ofText? source = some pattern ∧ pattern.isMatch text = false
  | .maxLength => ∃ most, f.maxLength = some most ∧ most < text.length
  | .minLength => ∃ least, f.minLength = some least ∧ text.length < least
  | .enumValue => ∃ allowed, f.allowedValues = some allowed ∧ allowed ≠ [] ∧
      ∀ value ∈ allowed, Text.trim value ≠ text
  | _ => False

/-- A check of a text reports a broken constraint under its code, and nothing else. -/
structure ReportsUnder (f : Field) (text : String) (code : FindingCode)
    (found : Option Finding) : Prop where
  isSome_iff : found.isSome ↔ f.Breaks text code
  eq_violation : ∀ g ∈ found, ∃ message, g = f.violation code message

section Checks

variable {text : String} {code : FindingCode}

/-- Where no constraint is broken there is nothing to report. -/
theorem reportsUnder_none (h : ¬ f.Breaks text code) : f.ReportsUnder text code none :=
  ⟨by simp [h], by simp⟩

/-- A broken constraint is reported as a violation. -/
theorem reportsUnder_violation (h : f.Breaks text code) (message : String) :
    f.ReportsUnder text code (some (f.violation code message)) :=
  ⟨by simp [h], by simp⟩

/-- A text is checked against a pattern that compiles. -/
theorem reportsUnder_patternFinding? :
    f.ReportsUnder text .pattern (f.patternFinding? text) := by
  rw [patternFinding?, patternFindingBy?]
  cases hgiven : f.pattern with
  | none => exact reportsUnder_none (by simp [Breaks, hgiven])
  | some source =>
    rw [Option.bind_some]
    cases hcompiled : Pattern.ofText? source with
    | none => exact reportsUnder_none (by simp [Breaks, hgiven, hcompiled])
    | some pattern =>
      rw [Option.bind_some]
      split
      next hmatch => exact reportsUnder_none (by simp [Breaks, hgiven, hcompiled, hmatch])
      next hmatch =>
        have hbroken : f.Breaks text .pattern :=
          ⟨source, pattern, hgiven, hcompiled, by simpa using hmatch⟩
        exact reportsUnder_violation hbroken _

/-- A text is checked against a greatest length. -/
theorem reportsUnder_maxLengthFinding? :
    f.ReportsUnder text .maxLength (f.maxLengthFinding? text) := by
  rw [maxLengthFinding?]
  cases hgiven : f.maxLength with
  | none => exact reportsUnder_none (by simp [Breaks, hgiven])
  | some most =>
    rw [Option.bind_some]
    split
    next hlength =>
      have hbroken : f.Breaks text .maxLength := ⟨most, hgiven, hlength⟩
      exact reportsUnder_violation hbroken _
    next hlength => exact reportsUnder_none (by simpa [Breaks, hgiven] using hlength)

/-- A text is checked against a least length. -/
theorem reportsUnder_minLengthFinding? :
    f.ReportsUnder text .minLength (f.minLengthFinding? text) := by
  rw [minLengthFinding?]
  cases hgiven : f.minLength with
  | none => exact reportsUnder_none (by simp [Breaks, hgiven])
  | some least =>
    rw [Option.bind_some]
    split
    next hlength =>
      have hbroken : f.Breaks text .minLength := ⟨least, hgiven, hlength⟩
      exact reportsUnder_violation hbroken _
    next hlength => exact reportsUnder_none (by simpa [Breaks, hgiven] using hlength)

/-- A field limits its values to a list that is given and not empty. -/
theorem valueList?_eq_some_iff {allowed : List String} :
    f.valueList? = some allowed ↔ f.allowedValues = some allowed ∧ allowed ≠ [] := by
  simp [valueList?, Option.filter_eq_some_iff]

/-- A trimmed text is checked against a list that is not empty. -/
theorem reportsUnder_valueFinding? (htrim : Text.trim text = text) :
    f.ReportsUnder text .enumValue (f.valueFinding? text) := by
  rw [valueFinding?]
  cases hlist : f.valueList? with
  | none =>
    refine reportsUnder_none ?_
    rintro ⟨allowed, hgiven, hne, -⟩
    rw [valueList?_eq_some_iff.2 ⟨hgiven, hne⟩] at hlist
    cases hlist
  | some allowed =>
    obtain ⟨hgiven, hne⟩ := valueList?_eq_some_iff.1 hlist
    rw [Option.bind_some, notAllowed?, htrim]
    split
    next hlisted => exact reportsUnder_none (by simpa [Breaks, hgiven, hne] using hlisted)
    next hlisted =>
      have hbroken : f.Breaks text .enumValue := ⟨allowed, hgiven, hne, by simpa using hlisted⟩
      exact reportsUnder_violation hbroken _

/-- The findings about a text are what four checks report, each under its own code. -/
theorem exists_textFindings_eq (htrim : Text.trim text = text) :
    ∃ found, f.textFindings text = found.flatMap Option.toList ∧
      List.Forall₂ (f.ReportsUnder text) constraintCodes found := by
  refine ⟨[f.patternFinding? text, f.maxLengthFinding? text, f.minLengthFinding? text,
    f.valueFinding? text], by simp [textFindings], ?_⟩
  exact .cons reportsUnder_patternFinding? (.cons reportsUnder_maxLengthFinding?
    (.cons reportsUnder_minLengthFinding? (.cons (reportsUnder_valueFinding? htrim) .nil)))

/-- What checks report is reported in their order, and at most once by each. -/
theorem sublist_codes {codes : List FindingCode} {found : List (Option Finding)}
    (h : List.Forall₂ (f.ReportsUnder text) codes found) :
    ((found.flatMap Option.toList).map (·.code)).Sublist codes := by
  induction h with
  | nil => exact .slnil
  | @cons code found codes rest hreports _ ih =>
    cases found with
    | none => exact ih.cons code
    | some g =>
      obtain ⟨message, rfl⟩ := hreports.eq_violation g rfl
      exact ih.cons_cons code

/-- What checks report are the broken constraints. -/
theorem mem_codes_iff {codes : List FindingCode} {found : List (Option Finding)}
    (h : List.Forall₂ (f.ReportsUnder text) codes found) :
    code ∈ (found.flatMap Option.toList).map (·.code) ↔ code ∈ codes ∧ f.Breaks text code := by
  induction h with
  | nil => simp
  | @cons first found codes rest hreports _ ih =>
    have hfirst : code ∈ found.toList.map (·.code) ↔ code = first ∧ f.Breaks text code := by
      cases found with
      | none =>
        have hkept : ¬ f.Breaks text first := mt hreports.isSome_iff.2 (by simp)
        simp only [Option.toList_none, List.map_nil, List.not_mem_nil, false_iff, not_and]
        rintro rfl
        exact hkept
      | some g =>
        have hbroken : f.Breaks text first := hreports.isSome_iff.1 rfl
        obtain ⟨message, rfl⟩ := hreports.eq_violation g rfl
        simp only [Option.toList_some, List.map_cons, List.map_nil, List.mem_singleton]
        refine ⟨?_, And.left⟩
        rintro rfl
        exact ⟨rfl, hbroken⟩
    rw [List.flatMap_cons, List.map_append, List.mem_append, hfirst, ih, List.mem_cons,
      or_and_right]

/-- Whatever checks report is a violation under one of their codes. -/
theorem exists_eq_violation_of_mem_found {codes : List FindingCode}
    {found : List (Option Finding)} (h : List.Forall₂ (f.ReportsUnder text) codes found)
    {g : Finding} (hg : g ∈ found.flatMap Option.toList) :
    ∃ code ∈ codes, ∃ message, g = f.violation code message := by
  induction h with
  | nil => cases hg
  | @cons first found codes rest hreports _ ih =>
    rw [List.flatMap_cons, List.mem_append, Option.mem_toList] at hg
    rcases hg with hg | hg
    · exact ⟨first, List.mem_cons_self, hreports.eq_violation g hg⟩
    · obtain ⟨code, hcode, hviolation⟩ := ih hg
      exact ⟨code, List.mem_cons_of_mem _ hcode, hviolation⟩

end Checks

/-- A text violates a field if it breaks one of its constraints. -/
theorem textViolates_iff {text : String} :
    f.TextViolates text ↔ ∃ code ∈ constraintCodes, f.Breaks text code := by
  constructor
  · rintro (⟨hgiven, hcompiled, h⟩ | ⟨hgiven, h⟩ | ⟨hgiven, h⟩ | ⟨hgiven, hne, h⟩)
    · exact ⟨.pattern, by decide, _, _, hgiven, hcompiled, h⟩
    · exact ⟨.maxLength, by decide, _, hgiven, h⟩
    · exact ⟨.minLength, by decide, _, hgiven, h⟩
    · exact ⟨.enumValue, by decide, _, hgiven, hne, h⟩
  · rintro ⟨code, hcode, hbreaks⟩
    simp only [constraintCodes, List.mem_cons, List.not_mem_nil, or_false] at hcode
    rcases hcode with rfl | rfl | rfl | rfl
    · obtain ⟨_, _, hgiven, hcompiled, h⟩ := hbreaks
      exact .pattern hgiven hcompiled h
    · obtain ⟨_, hgiven, h⟩ := hbreaks
      exact .tooLong hgiven h
    · obtain ⟨_, hgiven, h⟩ := hbreaks
      exact .tooShort hgiven h
    · obtain ⟨_, hgiven, hne, h⟩ := hbreaks
      exact .notListed hgiven hne h

/-- A trimmed text gives findings exactly when it breaks a constraint. -/
theorem textFindings_ne_nil_iff {text : String} (htrim : Text.trim text = text) :
    f.textFindings text ≠ [] ↔ f.TextViolates text := by
  obtain ⟨found, hfindings, hreports⟩ := exists_textFindings_eq (f := f) htrim
  rw [textViolates_iff]
  simp only [← mem_codes_iff hreports, ← hfindings]
  constructor
  · intro hne
    obtain ⟨g, hg⟩ := List.exists_mem_of_ne_nil _ hne
    exact ⟨g.code, List.mem_map_of_mem hg⟩
  · rintro ⟨code, hcode⟩ hnil
    rw [hnil] at hcode
    cases hcode

/-- A field whose constraints a text breaks has constraints. -/
theorem TextViolates.hasConstraints {text : String} (h : f.TextViolates text) :
    f.hasConstraints = true := by
  cases h with
  | pattern hgiven _ _ | tooLong hgiven _ | tooShort hgiven _ => simp [Field.hasConstraints, hgiven]
  | notListed hgiven hne _ =>
    simp [Field.hasConstraints, valueList?_eq_some_iff.2 ⟨hgiven, hne⟩]

/-- A value gives findings exactly when it breaks a constraint. -/
theorem constraintFindings_ne_nil_iff {v : Json} : f.constraintFindings v ≠ [] ↔ f.Violates v := by
  rw [constraintFindings]
  cases htext : v.scalarText? with
  | none =>
    constructor
    · intro h
      split at h
      next hconstrained => exact .noScalar hconstrained htext
      next => exact absurd rfl h
    · rintro (⟨hconstrained, _⟩ | ⟨hscalar, _⟩)
      · simp [hconstrained]
      · rw [htext] at hscalar
        cases hscalar
  | some text =>
    have hiff := textFindings_ne_nil_iff (f := f) (Text.trim_trim text)
    constructor
    · intro h
      split at h
      next => exact .text htext (hiff.1 h)
      next => exact absurd rfl h
    · rintro (⟨_, hscalar⟩ | ⟨hscalar, h⟩)
      · rw [htext] at hscalar
        cases hscalar
      · obtain rfl : text = _ := Option.some.inj (htext.symm.trans hscalar)
        rw [if_pos h.hasConstraints]
        exact hiff.2 h

/-- Whatever is found about a value is a violation under one of the codes of constraints. -/
theorem exists_eq_violation_of_mem_constraintFindings {v : Json} {g : Finding}
    (h : g ∈ f.constraintFindings v) :
    ∃ code ∈ constraintCodes, ∃ message, g = f.violation code message := by
  rw [constraintFindings] at h
  split at h
  · split at h
    · obtain ⟨found, hfindings, hreports⟩ := exists_textFindings_eq (f := f) (Text.trim_trim _)
      exact exists_eq_violation_of_mem_found hreports (hfindings ▸ h)
    · exact ⟨.pattern, by decide, _, List.mem_singleton.1 h⟩
  · cases h

/-! ### Requirement -/

section Requirement

variable (f) (e : Evaluator) (reportType : String) (record : Json)

/-- A field is applicable when the report type is in its scope. -/
theorem isApplicable_effectiveRequirement :
    (f.effectiveRequirement e reportType record).isApplicable = f.appliesTo reportType := by
  rw [effectiveRequirement]
  cases f.appliesTo reportType with
  | false => rfl
  | true =>
    rw [if_pos rfl]
    split
    · rfl
    · rfl
    · rfl
    · split <;> rfl

/-- What a field in scope demands, read off its requirement and its condition. -/
theorem effectiveRequirement_spec (hscope : f.appliesTo reportType = true) :
    (f.effectiveRequirement e reportType record = .mandatory ↔ f.requirement = .mandatory) ∧
    (f.effectiveRequirement e reportType record = .unresolvable ↔
      f.requirement = .conditional ∧ f.condition = none) ∧
    ((f.effectiveRequirement e reportType record).state = .required ↔
      f.IsRequired e record) := by
  rw [effectiveRequirement, if_pos hscope, IsRequired]
  cases hrequirement : f.requirement with
  | mandatory => simp [EffectiveRequirement.state]
  | optional => simp [EffectiveRequirement.state]
  | conditional =>
    cases hcondition : f.condition with
    | none => simp [EffectiveRequirement.state]
    | some c => cases heval : e.evaluate c record <;> simp [EffectiveRequirement.state, heval]

variable (requirement : EffectiveRequirement) (present : Bool)

/-- The requirement of a field gives a failed error when a required value is absent. -/
theorem exists_isFailureAt_requirementFinding?_iff :
    (∃ g ∈ f.requirementFinding? requirement present, g.isFailureAt .error = true) ↔
      requirement.state = .required ∧ present = false := by
  cases requirement <;> cases present <;>
    simp [requirementFinding?, EffectiveRequirement.state, requiredFinding, finding,
      Finding.isFailureAt]

/-- The requirement of a field gives errors and information only. -/
theorem severity_ne_warning_of_mem_requirementFinding? {g : Finding}
    (h : g ∈ f.requirementFinding? requirement present) : g.severity ≠ .warning := by
  revert g
  cases requirement <;> cases present <;>
    simp [requirementFinding?, EffectiveRequirement.state, requiredFinding, finding]

/-- The requirement of a field says nothing about duplicates. -/
theorem code_ne_duplicate_of_mem_requirementFinding? {g : Finding}
    (h : g ∈ f.requirementFinding? requirement present) : g.code ≠ .duplicate := by
  revert g
  cases requirement <;> cases present <;>
    simp [requirementFinding?, EffectiveRequirement.state, requiredFinding, finding]

/-- A mandatory field is reported as missing when its value is not there. -/
theorem countP_mandatoryMissing_requirementFinding? :
    (f.requirementFinding? requirement present).toList.countP (·.code == .mandatoryMissing) =
      if requirement = .mandatory ∧ present = false then 1 else 0 := by
  cases requirement <;> cases present <;>
    simp [requirementFinding?, EffectiveRequirement.state, requiredFinding, finding]

/-- A field whose requirement cannot be decided is reported as such. -/
theorem countP_requirementUnresolvable_requirementFinding? :
    (f.requirementFinding? requirement present).toList.countP
        (·.code == .requirementUnresolvable) =
      if requirement = .unresolvable then 1 else 0 := by
  cases requirement <;> cases present <;>
    simp [requirementFinding?, EffectiveRequirement.state, requiredFinding, finding]

end Requirement

/-! ### Findings -/

section Findings

variable (f) (e : Evaluator) (reportType : String) (record : Json)

/-- A field in scope gives the finding about its requirement and those about its value. -/
theorem findings_of_appliesTo (hscope : f.appliesTo reportType = true) :
    f.findings e reportType record =
      (f.requirementFinding? (f.effectiveRequirement e reportType record)
        (!f.isAbsent record)).toList ++
      (presentValue? record f.lookupPath).toList.flatMap f.constraintFindings := by
  rw [findings, if_pos (by rw [isApplicable_effectiveRequirement, hscope])]
  simp only [isSome_presentValue?, isAbsent]

/-- A field out of scope gives no finding. -/
theorem findings_of_not_appliesTo (hscope : f.appliesTo reportType = false) :
    f.findings e reportType record = [] := by
  rw [findings, if_neg]
  rw [isApplicable_effectiveRequirement, hscope]
  decide

/-- Every finding about the value of a field is a violation under one of the codes of
constraints. -/
theorem exists_eq_violation_of_mem_flatMap {g : Finding}
    (h : g ∈ (presentValue? record f.lookupPath).toList.flatMap f.constraintFindings) :
    ∃ code ∈ constraintCodes, ∃ message, g = f.violation code message := by
  obtain ⟨v, _, hg⟩ := List.mem_flatMap.1 h
  exact exists_eq_violation_of_mem_constraintFindings hg

/-- Nothing that is found about a field is a duplicate. -/
theorem code_ne_duplicate_of_mem_findings {g : Finding}
    (h : g ∈ f.findings e reportType record) : g.code ≠ .duplicate := by
  cases hscope : f.appliesTo reportType with
  | false =>
    rw [findings_of_not_appliesTo f e reportType record hscope] at h
    cases h
  | true =>
    rw [findings_of_appliesTo f e reportType record hscope, List.mem_append,
      Option.mem_toList] at h
    rcases h with h | h
    · exact f.code_ne_duplicate_of_mem_requirementFinding? _ _ h
    · obtain ⟨code, hcode, message, rfl⟩ := exists_eq_violation_of_mem_flatMap f record h
      rintro rfl
      exact absurd hcode (by decide)

/-- A field gives a failed error exactly when it is in scope, and required without a value
or with a value that breaks a constraint. -/
theorem exists_isFailureAt_findings_iff :
    (∃ g ∈ f.findings e reportType record, g.isFailureAt .error = true) ↔
      f.appliesTo reportType = true ∧
        (f.IsRequired e record ∧ f.isAbsent record = true ∨ f.IsViolated record) := by
  cases hscope : f.appliesTo reportType with
  | false => simp [findings_of_not_appliesTo f e reportType record hscope]
  | true =>
    have hmissing := exists_isFailureAt_requirementFinding?_iff f
      (f.effectiveRequirement e reportType record) (!f.isAbsent record)
    rw [(effectiveRequirement_spec f e reportType record hscope).2.2, Bool.not_eq_false']
      at hmissing
    have hviolated : (∃ g ∈ (presentValue? record f.lookupPath).toList.flatMap
        f.constraintFindings, g.isFailureAt .error = true) ↔ f.IsViolated record := by
      constructor
      · rintro ⟨g, hg, _⟩
        obtain ⟨v, hv, hg⟩ := List.mem_flatMap.1 hg
        exact ⟨v, Option.mem_toList.1 hv,
          constraintFindings_ne_nil_iff.1 (List.ne_nil_of_mem hg)⟩
      · rintro ⟨v, hv, hviolates⟩
        obtain ⟨g, hg⟩ :=
          List.exists_mem_of_ne_nil _ (constraintFindings_ne_nil_iff.2 hviolates)
        obtain ⟨code, _, message, rfl⟩ := exists_eq_violation_of_mem_constraintFindings hg
        exact ⟨_, List.mem_flatMap.2 ⟨v, Option.mem_toList.2 hv, hg⟩, rfl⟩
    rw [findings_of_appliesTo f e reportType record hscope]
    simp only [List.mem_append, Option.mem_toList, or_and_right, exists_or, true_and]
    rw [hviolated, ← hmissing]
    rfl

/-- No field gives a failed warning. -/
theorem not_isFailureAt_warning {g : Finding} (h : g ∈ f.findings e reportType record) :
    g.isFailureAt .warning = false := by
  have hseverity : g.severity ≠ .warning := by
    cases hscope : f.appliesTo reportType with
    | false =>
      rw [findings_of_not_appliesTo f e reportType record hscope] at h
      cases h
    | true =>
      rw [findings_of_appliesTo f e reportType record hscope, List.mem_append] at h
      rcases h with h | h
      · exact severity_ne_warning_of_mem_requirementFinding? f _ _ (Option.mem_toList.1 h)
      · obtain ⟨code, _, message, rfl⟩ := exists_eq_violation_of_mem_flatMap f record h
        simp [violation, finding]
  simp [Finding.isFailureAt, hseverity]

/-- A code that constraints do not use is counted among the requirement only. -/
theorem countP_code_findings {code : FindingCode} (hcode : code ∉ constraintCodes)
    (hscope : f.appliesTo reportType = true) :
    (f.findings e reportType record).countP (·.code == code) =
      (f.requirementFinding? (f.effectiveRequirement e reportType record)
        (!f.isAbsent record)).toList.countP (·.code == code) := by
  rw [findings_of_appliesTo f e reportType record hscope, List.countP_append,
    Nat.add_eq_left, List.countP_eq_zero]
  intro g hg hsame
  obtain ⟨other, hother, message, rfl⟩ := exists_eq_violation_of_mem_flatMap f record hg
  obtain rfl : other = code := eq_of_beq hsame
  exact hcode hother

/-- A field is counted as missing exactly when it is in scope, mandatory and absent. -/
theorem countP_mandatoryMissing :
    (f.findings e reportType record).countP (·.code == .mandatoryMissing) =
      if f.appliesTo reportType && f.requirement == .mandatory && f.isAbsent record then 1
      else 0 := by
  cases hscope : f.appliesTo reportType with
  | false => simp [findings_of_not_appliesTo f e reportType record hscope]
  | true =>
    rw [countP_code_findings f e reportType record (by decide) hscope,
      countP_mandatoryMissing_requirementFinding?]
    simp [(effectiveRequirement_spec f e reportType record hscope).1]

/-- A field is counted as unresolved exactly when it is in scope and conditional, and has no
condition. -/
theorem countP_requirementUnresolvable :
    (f.findings e reportType record).countP (·.code == .requirementUnresolvable) =
      if f.appliesTo reportType && f.requirement == .conditional && f.condition.isNone then 1
      else 0 := by
  cases hscope : f.appliesTo reportType with
  | false => simp [findings_of_not_appliesTo f e reportType record hscope]
  | true =>
    rw [countP_code_findings f e reportType record (by decide) hscope,
      countP_requirementUnresolvable_requirementFinding?]
    simp [(effectiveRequirement_spec f e reportType record hscope).2.1]

end Findings

end Field

end RegulatoryReporting
