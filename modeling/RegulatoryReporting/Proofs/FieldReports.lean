import RegulatoryReporting.Proofs.ConsistentPackage
import RegulatoryReporting.Proofs.FieldFindings

/-!
# What Is Reported about a Field

The findings about a field of a record, one by one. A field out of scope has none. A field in
scope has at most one finding about its requirement, which comes first, and the code of this
finding tells the case: the value is required and missing, required and there, or nothing can
be said because a conditional field has no condition. A value that is there is then checked,
required or not. A text gives one failed error for each constraint that it breaks, in the order
of the checks; an array or object gives one if there are constraints at all.

Verification sees to it that the lengths of a field leave room for a text, so no text is at the
same time too long and too short for a field of an accepted package.

## Main results

* `Field.tellsRequirement`, `Field.tellsValue` — the two parts of the findings.
* `Field.tellsAll_findings` — the findings as a whole.
-/

namespace RegulatoryReporting

/-- An array or object has no text. -/
theorem Json.scalarText?_of_isContainer {v : Json} (h : v.isContainer = true) :
    v.scalarText? = none := by
  cases v with
  | arr _ | obj _ => rfl
  | null | bool _ | num _ | str _ => cases h

/-- A value that is there has a text unless it is an array or object. -/
theorem isContainer_of_presentValue? {record v : Json} {path : String}
    (hv : presentValue? record path = some v) (htext : v.scalarText? = none) :
    v.isContainer = true := by
  rw [presentValue?, Option.filter_eq_some_iff] at hv
  cases v with
  | arr _ | obj _ => rfl
  | null => exact absurd hv.2 (by decide)
  | bool _ | num _ | str _ => cases htext

namespace Field

/-- How findings about a requirement are headed: by their code, their severity and whether they
have passed. -/
def requirementKinds : List (FindingCode × Severity × Bool) :=
  [(.mandatoryMissing, .error, false), (.conditionalMissing, .error, false),
    (.requiredPresent, .error, true), (.requirementUnresolvable, .info, false)]

/-- What the finding about the requirement of a field tells about a record, and when there is
one. -/
structure TellsRequirement (f : Field) (e : Evaluator) (record : Json)
    (found : Option Finding) : Prop where
  /-- It is headed in one of four ways. -/
  kind : ∀ g ∈ found, (g.code, g.severity, g.passed) ∈ requirementKinds
  /-- A mandatory value is missing. -/
  mandatoryMissing : (∃ g ∈ found, g.code = .mandatoryMissing) ↔
    f.requirement = .mandatory ∧ f.isAbsent record = true
  /-- A value is missing although the condition of the field holds. -/
  conditionalMissing : (∃ g ∈ found, g.code = .conditionalMissing) ↔
    f.requirement = .conditional ∧ (∃ c, f.condition = some c ∧ e.evaluate c record = true) ∧
      f.isAbsent record = true
  /-- A required value is there. -/
  requiredPresent : (∃ g ∈ found, g.code = .requiredPresent) ↔
    f.IsRequired e record ∧ f.isAbsent record = false
  /-- A conditional field has no condition, whatever the record. -/
  requirementUnresolvable : (∃ g ∈ found, g.code = .requirementUnresolvable) ↔
    f.requirement = .conditional ∧ f.condition = none

/-- The field has a pattern, a bound on its length, or a list of values that is not empty. -/
def IsConstrained (f : Field) : Prop :=
  f.pattern ≠ none ∨ f.maxLength ≠ none ∨ f.minLength ≠ none ∨
    ∃ allowed, f.allowedValues = some allowed ∧ allowed ≠ []

/-- What the findings about the value of a field tell about a record. -/
structure TellsValue (f : Field) (record : Json) (gs : List Finding) : Prop where
  /-- Each of them is a failed error. -/
  failed : ∀ g ∈ gs, g.severity = .error ∧ g.passed = false
  /-- A value that is absent is not checked. -/
  absent : f.isAbsent record = true → gs = []
  /-- An array or object is reported once. -/
  container : ∀ v, presentValue? record f.lookupPath = some v → v.isContainer = true →
    f.IsConstrained → ∃ g, gs = [g] ∧ g.code = .pattern ∧
      g.message = s!"{f.id} must be a scalar value"
  /-- Without constraints it is not. -/
  unconstrained : ∀ v, presentValue? record f.lookupPath = some v → v.isContainer = true →
    ¬ f.IsConstrained → gs = []
  /-- Of a text the broken constraints are reported, each once and in their order. -/
  text : ∀ v text, presentValue? record f.lookupPath = some v → v.scalarText? = some text →
    (gs.map (·.code)).Sublist constraintCodes ∧
      ∀ code, code ∈ gs.map (·.code) ↔ f.Breaks (Text.trim text) code

/-- What the findings about a field tell about a record. -/
structure TellsAll (f : Field) (e : Evaluator) (reportType : String) (record : Json)
    (gs : List Finding) : Prop where
  /-- Out of scope there is nothing to tell. -/
  out_of_scope : f.appliesTo reportType = false → gs = []
  /-- In scope, the requirement comes first and the value after it. -/
  in_scope : f.appliesTo reportType = true → ∃ found rest, gs = Option.toList found ++ rest ∧
    f.TellsRequirement e record found ∧ f.TellsValue record rest
  /-- Every finding names the field and its place. -/
  located : ∀ g ∈ gs, g.subject = f.id ∧ g.path = some f.lookupPath
  /-- No text is too long and too short for a field of an accepted package. -/
  lengths : ∀ p : Package, p.verify = .ok () → f ∈ p.fields →
    ¬ (.maxLength ∈ gs.map (·.code) ∧ .minLength ∈ gs.map (·.code))

variable {f : Field}

/-! ### The requirement -/

/-- What the requirement of a field in scope tells. -/
theorem tellsRequirement {e : Evaluator} {reportType : String} {record : Json}
    (hscope : f.appliesTo reportType = true) :
    f.TellsRequirement e record (f.requirementFinding?
      (f.effectiveRequirement e reportType record) (!f.isAbsent record)) := by
  rw [effectiveRequirement, if_pos hscope]
  cases hrequirement : f.requirement with
  | mandatory =>
    cases habsent : f.isAbsent record <;> constructor <;>
      simp [requirementFinding?, EffectiveRequirement.state, requiredFinding, finding,
        requirementKinds, IsRequired, hrequirement, habsent]
  | optional =>
    constructor <;>
      simp [requirementFinding?, EffectiveRequirement.state, IsRequired, hrequirement]
  | conditional =>
    cases hcondition : f.condition with
    | none =>
      constructor <;>
        simp [requirementFinding?, EffectiveRequirement.state, finding, requirementKinds,
          IsRequired, hrequirement, hcondition]
    | some c =>
      cases hholds : e.evaluate c record with
      | false =>
        constructor <;>
          simp [requirementFinding?, EffectiveRequirement.state, IsRequired, hrequirement,
            hcondition, hholds]
      | true =>
        cases habsent : f.isAbsent record <;> constructor <;>
          simp [requirementFinding?, EffectiveRequirement.state, requiredFinding, finding,
            requirementKinds, IsRequired, hrequirement, hcondition, hholds, habsent]

/-! ### The value -/

/-- A field has constraints if one of them is given. -/
theorem hasConstraints_iff : f.hasConstraints = true ↔ f.IsConstrained := by
  have hlist : f.valueList?.isSome = true ↔
      ∃ allowed, f.allowedValues = some allowed ∧ allowed ≠ [] := by
    simp only [Option.isSome_iff_exists, valueList?_eq_some_iff]
  simp only [hasConstraints, Bool.or_eq_true, hlist, IsConstrained, ne_eq,
    Option.isSome_iff_ne_none, or_assoc]

/-- Only constraints are broken. -/
theorem Breaks.mem_constraintCodes {text : String} {code : FindingCode}
    (h : f.Breaks text code) : code ∈ constraintCodes := by
  cases code <;> first | decide | exact h.elim

/-- A text breaks no constraint of a field without constraints. -/
theorem Breaks.hasConstraints {text : String} {code : FindingCode} (h : f.Breaks text code) :
    f.hasConstraints = true :=
  (textViolates_iff.2 ⟨code, h.mem_constraintCodes, h⟩).hasConstraints

/-- What the value of a field tells. -/
theorem tellsValue (record : Json) :
    f.TellsValue record
      ((presentValue? record f.lookupPath).toList.flatMap f.constraintFindings) := by
  have hvalue : ∀ v, presentValue? record f.lookupPath = some v →
      (presentValue? record f.lookupPath).toList.flatMap f.constraintFindings =
        f.constraintFindings v := by
    intro v hv
    rw [hv, Option.toList_some, List.flatMap_singleton]
  constructor
  case failed =>
    intro g hg
    obtain ⟨code, -, message, rfl⟩ := exists_eq_violation_of_mem_flatMap f record hg
    exact ⟨rfl, rfl⟩
  case absent =>
    intro habsent
    rw [presentValue?_eq_none_iff.2 habsent]
    rfl
  case container =>
    intro v hv hcontainer hconstrained
    rw [hvalue v hv, constraintFindings, if_pos (hasConstraints_iff.2 hconstrained),
      Json.scalarText?_of_isContainer hcontainer]
    exact ⟨_, rfl, rfl, rfl⟩
  case unconstrained =>
    intro v hv _ hunconstrained
    rw [hvalue v hv, constraintFindings, if_neg (mt hasConstraints_iff.1 hunconstrained)]
  case text =>
    intro v text hv htext
    have hcases : f.constraintFindings v =
        if f.hasConstraints then f.textFindings (Text.trim text) else [] := by
      rw [constraintFindings, htext]
    rw [hvalue v hv, hcases]
    split
    next =>
      obtain ⟨found, hfindings, hreports⟩ := exists_textFindings_eq (f := f) (Text.trim_trim text)
      rw [hfindings]
      refine ⟨sublist_codes hreports, fun code => ?_⟩
      rw [mem_codes_iff hreports, and_iff_right_of_imp Breaks.mem_constraintCodes]
    next hunconstrained =>
      refine ⟨List.nil_sublist _, fun code => ?_⟩
      simp only [List.map_nil, List.not_mem_nil, false_iff]
      exact fun hbreaks => hunconstrained hbreaks.hasConstraints

/-! ### All findings -/

/-- A finding about the requirement of a field names the field and its place. -/
theorem located_of_mem_requirementFinding? {requirement : EffectiveRequirement} {present : Bool}
    {g : Finding} (h : g ∈ f.requirementFinding? requirement present) :
    g.subject = f.id ∧ g.path = some f.lookupPath := by
  revert g
  cases requirement <;> cases present <;>
    simp [requirementFinding?, EffectiveRequirement.state, requiredFinding, finding]

/-- Every finding about a field names the field and its place. -/
theorem located_of_mem_findings {e : Evaluator} {reportType : String} {record : Json}
    {g : Finding} (h : g ∈ f.findings e reportType record) :
    g.subject = f.id ∧ g.path = some f.lookupPath := by
  cases hscope : f.appliesTo reportType with
  | false =>
    rw [findings_of_not_appliesTo f e reportType record hscope] at h
    cases h
  | true =>
    rw [findings_of_appliesTo f e reportType record hscope, List.mem_append,
      Option.mem_toList] at h
    rcases h with h | h
    · exact located_of_mem_requirementFinding? h
    · obtain ⟨code, -, message, rfl⟩ := exists_eq_violation_of_mem_flatMap f record h
      exact ⟨rfl, rfl⟩

variable {record : Json} {gs : List Finding} {code : FindingCode}

/-- A code other than that of patterns is found about a text that breaks its constraint. -/
theorem TellsValue.exists_breaks (h : f.TellsValue record gs) (hcode : code ≠ .pattern)
    (hmem : code ∈ gs.map (·.code)) :
    ∃ text, (presentValue? record f.lookupPath).bind Json.scalarText? = some text ∧
      f.Breaks (Text.trim text) code := by
  cases hplace : presentValue? record f.lookupPath with
  | none =>
    rw [h.absent (presentValue?_eq_none_iff.1 hplace)] at hmem
    cases hmem
  | some v =>
    cases htext : v.scalarText? with
    | some text => exact ⟨text, htext, ((h.text v text hplace htext).2 code).1 hmem⟩
    | none =>
      have hcontainer := isContainer_of_presentValue? hplace htext
      by_cases hconstrained : f.IsConstrained
      · obtain ⟨g, rfl, hg, -⟩ := h.container v hplace hcontainer hconstrained
        exact absurd ((List.mem_singleton.1 hmem).trans hg) hcode
      · rw [h.unconstrained v hplace hcontainer hconstrained] at hmem
        cases hmem

/-- No finding about the requirement of a field has the code of a constraint. -/
theorem TellsRequirement.not_mem_constraintCodes {e : Evaluator} {found : Option Finding}
    (h : f.TellsRequirement e record found) {g : Finding} (hg : g ∈ found) :
    g.code ∉ constraintCodes := by
  have hkind := h.kind g hg
  simp only [requirementKinds, List.mem_cons, Prod.mk.injEq, List.not_mem_nil, or_false] at hkind
  rcases hkind with ⟨hcode, -⟩ | ⟨hcode, -⟩ | ⟨hcode, -⟩ | ⟨hcode, -⟩ <;> rw [hcode] <;> decide

/-- What is found about a field under a code of constraints, other than that of patterns, is
found because its text breaks the constraint. -/
theorem exists_breaks_of_mem_findings {e : Evaluator} {reportType : String}
    (hcode : code ∈ constraintCodes) (hpattern : code ≠ .pattern)
    (hmem : code ∈ (f.findings e reportType record).map (·.code)) :
    ∃ text, (presentValue? record f.lookupPath).bind Json.scalarText? = some text ∧
      f.Breaks (Text.trim text) code := by
  cases hscope : f.appliesTo reportType with
  | false =>
    rw [findings_of_not_appliesTo f e reportType record hscope] at hmem
    cases hmem
  | true =>
    rw [findings_of_appliesTo f e reportType record hscope, List.map_append, List.mem_append]
      at hmem
    rcases hmem with hmem | hmem
    · obtain ⟨g, hg, rfl⟩ := List.mem_map.1 hmem
      exact absurd hcode
        ((tellsRequirement hscope).not_mem_constraintCodes (Option.mem_toList.1 hg))
    · exact (tellsValue record).exists_breaks hpattern hmem

/-- Lengths that leave room for a text are not both broken by it. -/
theorem IsConsistent.not_breaks_minLength {declared : List String} (h : f.IsConsistent declared)
    {text : String} (hlong : f.Breaks text .maxLength) : ¬ f.Breaks text .minLength := by
  obtain ⟨most, hmost, hlong⟩ := hlong
  rintro ⟨least, hleast, hshort⟩
  have hroom := h.lengths least most hleast hmost
  omega

/-- **What is reported about a field.** For every field, evaluator, report type and record, the
findings tell the requirement and the value of the field under exactly the codes that apply. -/
theorem tellsAll_findings (f : Field) (e : Evaluator) (reportType : String) (record : Json) :
    f.TellsAll e reportType record (f.findings e reportType record) where
  out_of_scope := findings_of_not_appliesTo f e reportType record
  in_scope hscope := ⟨_, _, findings_of_appliesTo f e reportType record hscope,
    tellsRequirement hscope, tellsValue record⟩
  located _ := located_of_mem_findings
  lengths p hverified hmem := by
    rintro ⟨hlong, hshort⟩
    have hconsistent := (Package.verify_eq_ok_iff_isConsistent.1 hverified).fields f hmem
    obtain ⟨text, htext, hlong⟩ :=
      exists_breaks_of_mem_findings (by decide) (by decide) hlong
    obtain ⟨other, hother, hshort⟩ :=
      exists_breaks_of_mem_findings (by decide) (by decide) hshort
    -- Both findings are about the one text of the value.
    obtain rfl : text = other := Option.some.inj (htext.symm.trans hother)
    exact hconsistent.not_breaks_minLength hlong hshort

/-- Blanks around a text are not counted, and its length is that of its characters. -/
example : ((Field.findings
    { id := "side", requirement := .mandatory, maxLength := some 3, allowedValues := some ["BUY"] }
    (.ofLimit 1) "TRADE" (.obj [("side", .str " ÄÖÜ ")])).map (·.code)) =
      [.requiredPresent, .enumValue] := by
  decide +kernel

end Field

end RegulatoryReporting
