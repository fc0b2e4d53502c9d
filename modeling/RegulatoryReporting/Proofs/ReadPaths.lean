import Mathlib.Data.List.Basic
import RegulatoryReporting.Validation.Record

/-!
# The Paths That Validation Reads

A field looks a record up at its own path and at those of the leaves of its condition
(`Field.readPaths`), a rule at the paths to which its affected fields are mapped and at those
of the leaves of its precondition and its assertion (`Package.rulePaths`). This module shows
that there are no others. Two records that answer alike at these paths, and to which the
handlers of the rules answer alike, give the same findings about the field and the same
judgement about the rule, whatever else they hold. A package reads finitely many paths
(`Package.readPaths`), among them those of all its fields and rules.

Conditions are followed by one induction over the tree, on any depth; everything else is a
composition of lookups.

## Main results

* `Evaluator.evaluateAt_congr` — a condition depends on the paths of its leaves only.
* `Field.findings_congr`, `Engine.judge_congr_of_answerAlike` — a field and a rule depend on
  their own paths only.
* `Engine.fieldFindings_congr`, `Engine.judgeAll_congr_of_answerAlike` — the fields and rules
  of a package depend on its read paths only.
-/

namespace RegulatoryReporting

/-- The paths at which a field looks a record up: its own, and those of its condition. -/
def Field.readPaths (f : Field) : List String :=
  f.lookupPath :: f.condition.toList.flatMap (·.fields)

/-- The paths at which a rule of a package looks a record up: those of its affected fields,
and those of its precondition and its assertion. -/
def Package.rulePaths (p : Package) (r : Rule) : List String :=
  r.affectedFields.map p.affectedPath ++ r.precondition.toList.flatMap (·.fields) ++
    r.assertion.toList.flatMap (·.fields)

/-- The conditions of a package: those of its fields, then the assertions and the
preconditions of its rules. -/
def Package.conditions (p : Package) : List Condition :=
  p.fields.filterMap (·.condition) ++ p.rules.filterMap (·.assertion) ++
    p.rules.filterMap (·.precondition)

/-- The paths at which a package looks a record up: for its fields, for the affected fields
of its rules, and for the leaves of its conditions. -/
def Package.readPaths (p : Package) : List String :=
  p.fields.map (·.lookupPath) ++
    p.rules.flatMap (fun r => r.affectedFields.map p.affectedPath) ++
    p.conditions.flatMap (·.fields)

namespace Package

variable {p : Package}

/-- A condition of a field is one of the package. -/
theorem mem_conditions_of_field {f : Field} {c : Condition} (hf : f ∈ p.fields)
    (hc : f.condition = some c) : c ∈ p.conditions :=
  List.mem_append_left _ (List.mem_append_left _ (List.mem_filterMap.2 ⟨f, hf, hc⟩))

/-- An assertion of a rule is a condition of the package. -/
theorem mem_conditions_of_assertion {r : Rule} {c : Condition} (hr : r ∈ p.rules)
    (hc : r.assertion = some c) : c ∈ p.conditions :=
  List.mem_append_left _ (List.mem_append_right _ (List.mem_filterMap.2 ⟨r, hr, hc⟩))

/-- A precondition of a rule is a condition of the package. -/
theorem mem_conditions_of_precondition {r : Rule} {c : Condition} (hr : r ∈ p.rules)
    (hc : r.precondition = some c) : c ∈ p.conditions :=
  List.mem_append_right _ (List.mem_filterMap.2 ⟨r, hr, hc⟩)

/-- What holds of the conditions of all fields, of all assertions and of all preconditions
holds of all conditions of the package. -/
theorem forall_mem_conditions {holds : Condition → Prop}
    (hfields : ∀ f ∈ p.fields, ∀ c, f.condition = some c → holds c)
    (hassertions : ∀ r ∈ p.rules, ∀ c, r.assertion = some c → holds c)
    (hpreconditions : ∀ r ∈ p.rules, ∀ c, r.precondition = some c → holds c) :
    ∀ c ∈ p.conditions, holds c := by
  intro c hc
  rw [conditions, List.mem_append, List.mem_append] at hc
  rcases hc with (hc | hc) | hc
  · obtain ⟨f, hf, hcondition⟩ := List.mem_filterMap.1 hc
    exact hfields f hf c hcondition
  · obtain ⟨r, hr, hcondition⟩ := List.mem_filterMap.1 hc
    exact hassertions r hr c hcondition
  · obtain ⟨r, hr, hcondition⟩ := List.mem_filterMap.1 hc
    exact hpreconditions r hr c hcondition

/-- The path of a field is read. -/
theorem lookupPath_mem_readPaths {f : Field} (hf : f ∈ p.fields) :
    f.lookupPath ∈ p.readPaths :=
  List.mem_append_left _ (List.mem_append_left _ (List.mem_map_of_mem hf))

/-- The path of an affected field is read. -/
theorem affectedPath_mem_readPaths {r : Rule} {field : String} (hr : r ∈ p.rules)
    (hfield : field ∈ r.affectedFields) : p.affectedPath field ∈ p.readPaths :=
  List.mem_append_left _ (List.mem_append_right _
    (List.mem_flatMap.2 ⟨r, hr, List.mem_map_of_mem hfield⟩))

/-- The paths of a condition are read. -/
theorem fields_subset_readPaths {c : Condition} (hc : c ∈ p.conditions) :
    c.fields ⊆ p.readPaths :=
  fun _ hpath => List.mem_append_right _ (List.mem_flatMap.2 ⟨c, hc, hpath⟩)

/-- The paths of a field are read. -/
theorem readPaths_subset_readPaths {f : Field} (hf : f ∈ p.fields) :
    f.readPaths ⊆ p.readPaths := by
  intro path hpath
  rcases List.mem_cons.1 hpath with rfl | hpath
  · exact lookupPath_mem_readPaths hf
  · obtain ⟨c, hc, hpath⟩ := List.mem_flatMap.1 hpath
    exact fields_subset_readPaths (mem_conditions_of_field hf (Option.mem_toList.1 hc)) hpath

/-- The paths of a rule are read. -/
theorem rulePaths_subset_readPaths {r : Rule} (hr : r ∈ p.rules) :
    p.rulePaths r ⊆ p.readPaths := by
  intro path hpath
  rw [rulePaths, List.mem_append, List.mem_append] at hpath
  rcases hpath with (hpath | hpath) | hpath
  · obtain ⟨field, hfield, rfl⟩ := List.mem_map.1 hpath
    exact affectedPath_mem_readPaths hr hfield
  · obtain ⟨c, hc, hpath⟩ := List.mem_flatMap.1 hpath
    exact fields_subset_readPaths (mem_conditions_of_precondition hr (Option.mem_toList.1 hc))
      hpath
  · obtain ⟨c, hc, hpath⟩ := List.mem_flatMap.1 hpath
    exact fields_subset_readPaths (mem_conditions_of_assertion hr (Option.mem_toList.1 hc)) hpath

end Package

/-! ### Records that answer alike -/

/-- Two records answer alike at some paths. -/
def AnswerAlike (paths : List String) (record₁ record₂ : Json) : Prop :=
  ∀ path ∈ paths, resolve record₁ path = resolve record₂ path

variable {record₁ record₂ : Json}

/-- Records that answer alike at some paths answer alike at fewer. -/
theorem AnswerAlike.mono {paths₁ paths₂ : List String} (h : AnswerAlike paths₂ record₁ record₂)
    (hsubset : paths₁ ⊆ paths₂) : AnswerAlike paths₁ record₁ record₂ :=
  fun path hpath => h path (hsubset hpath)

/-- Records that answer alike at a path have the same value there. -/
theorem presentValue?_congr {path : String} (h : resolve record₁ path = resolve record₂ path) :
    presentValue? record₁ path = presentValue? record₂ path := by
  rw [presentValue?, presentValue?, h]

/-- A leaf depends on its path only. -/
theorem ConditionLeaf.holds_congr {l : ConditionLeaf}
    (h : resolve record₁ l.field = resolve record₂ l.field) :
    l.holds record₁ = l.holds record₂ := by
  rw [holds, holds, presentValue?_congr h]

namespace Evaluator

variable {e : Evaluator}

mutual

/-- Evaluating a subtree depends on the paths of its leaves only. -/
theorem evaluateAt_congr : ∀ (c : Condition) (depth : Nat),
    (∀ l ∈ c.leaves, resolve record₁ l.field = resolve record₂ l.field) →
    e.evaluateAt record₁ depth c = e.evaluateAt record₂ depth c
  | .leaf l, depth, h => by
    have hl := h l (by simp [Condition.leaves])
    rw [evaluateAt, evaluateAt, ConditionLeaf.holds_congr hl]
  | .and children, depth, h => by
    rw [Condition.leaves] at h
    rw [evaluateAt, evaluateAt, evaluateAll_congr children (depth + 1) h]
  | .or children, depth, h => by
    rw [Condition.leaves] at h
    rw [evaluateAt, evaluateAt, evaluateAny_congr children (depth + 1) h]
  | .not inner, depth, h => by
    rw [Condition.leaves] at h
    rw [evaluateAt, evaluateAt, evaluateAt_congr inner (depth + 1) h]

/-- Evaluating a conjunction depends on the paths of its leaves only. -/
theorem evaluateAll_congr : ∀ (cs : List Condition) (depth : Nat),
    (∀ l ∈ Condition.childrenLeaves cs, resolve record₁ l.field = resolve record₂ l.field) →
    e.evaluateAll record₁ depth cs = e.evaluateAll record₂ depth cs
  | [], depth, _ => by rw [evaluateAll, evaluateAll]
  | c :: cs, depth, h => by
    rw [Condition.childrenLeaves] at h
    have hc := evaluateAt_congr c depth fun l hl => h l (List.mem_append_left _ hl)
    have hcs := evaluateAll_congr cs depth fun l hl =>
      h l (List.mem_append_right _ hl)
    rw [evaluateAll, evaluateAll, hc, hcs]

/-- Evaluating a disjunction depends on the paths of its leaves only. -/
theorem evaluateAny_congr : ∀ (cs : List Condition) (depth : Nat),
    (∀ l ∈ Condition.childrenLeaves cs, resolve record₁ l.field = resolve record₂ l.field) →
    e.evaluateAny record₁ depth cs = e.evaluateAny record₂ depth cs
  | [], depth, _ => by rw [evaluateAny, evaluateAny]
  | c :: cs, depth, h => by
    rw [Condition.childrenLeaves] at h
    have hc := evaluateAt_congr c depth fun l hl => h l (List.mem_append_left _ hl)
    have hcs := evaluateAny_congr cs depth fun l hl =>
      h l (List.mem_append_right _ hl)
    rw [evaluateAny, evaluateAny, hc, hcs]

end

/-- A condition depends on its paths only. -/
theorem evaluate_congr {c : Condition} (h : AnswerAlike c.fields record₁ record₂) :
    e.evaluate c record₁ = e.evaluate c record₂ := by
  have hat : e.evaluate? c record₁ = e.evaluate? c record₂ :=
    evaluateAt_congr c 1 fun l hl => h l.field (List.mem_map_of_mem hl)
  rw [evaluate, evaluate, hat]

end Evaluator

/-! ### Fields -/

namespace Field

variable {f : Field} (h : AnswerAlike f.readPaths record₁ record₂)

include h

/-- What a field demands depends on its paths only. -/
theorem effectiveRequirement_congr (e : Evaluator) (reportType : String) :
    f.effectiveRequirement e reportType record₁ =
      f.effectiveRequirement e reportType record₂ := by
  rw [effectiveRequirement, effectiveRequirement]
  cases hcondition : f.condition with
  | none => cases f.requirement <;> rfl
  | some c =>
    have heval : e.evaluate c record₁ = e.evaluate c record₂ := by
      refine Evaluator.evaluate_congr (h.mono fun path hpath => List.mem_cons_of_mem _ ?_)
      exact List.mem_flatMap.2 ⟨c, Option.mem_toList.2 hcondition, hpath⟩
    cases f.requirement <;> simp only [heval]

/-- The findings about a field depend on its paths only. -/
theorem findings_congr (e : Evaluator) (reportType : String) :
    f.findings e reportType record₁ = f.findings e reportType record₂ := by
  have hvalue := presentValue?_congr (h f.lookupPath List.mem_cons_self)
  rw [findings, findings, effectiveRequirement_congr h, hvalue]

end Field

/-! ### Rules -/

section

variable {p : Package} {r : Rule} (h : AnswerAlike (p.rulePaths r) record₁ record₂)

include h

/-- The values of the affected fields of a rule depend on the paths of the rule only. -/
theorem Package.affectedValues_congr : p.affectedValues r record₁ = p.affectedValues r record₂ := by
  rw [affectedValues, affectedValues]
  refine List.map_congr_left fun field hfield => ?_
  have hpath : p.affectedPath field ∈ p.rulePaths r :=
    List.mem_append_left _ (List.mem_append_left _ (List.mem_map_of_mem hfield))
  simp only [h _ hpath]

/-- Whether a rule is checked depends on the paths of the rule only. -/
theorem Engine.triggers_congr (e : Engine) : e.triggers r record₁ = e.triggers r record₂ := by
  rw [triggers, triggers]
  cases hcondition : r.precondition with
  | none => rfl
  | some c =>
    have hpaths : c.fields ⊆ p.rulePaths r := fun path hpath =>
      List.mem_append_left _ (List.mem_append_right _
        (List.mem_flatMap.2 ⟨c, Option.mem_toList.2 hcondition, hpath⟩))
    rw [Option.all_some, Option.all_some, Evaluator.evaluate_congr (h.mono hpaths)]

/-- The finding of a rule over the record depends on the paths and the handler of the rule
only. -/
theorem Rule.assertionFinding_congr (e : Engine)
    (hhandler : ∀ handler, e.catalog.handler? r.id = some handler →
      handler r record₁ = handler r record₂) :
    assertionFinding e r record₁ = assertionFinding e r record₂ := by
  rw [assertionFinding, assertionFinding]
  cases hhas : e.catalog.handler? r.id with
  | some handler => simp only [hhandler handler hhas]
  | none =>
    cases hcondition : r.assertion with
    | none => rfl
    | some c =>
      have hpaths : c.fields ⊆ p.rulePaths r := fun path hpath =>
        List.mem_append_right _ (List.mem_flatMap.2 ⟨c, Option.mem_toList.2 hcondition, hpath⟩)
      simp only [Evaluator.evaluate_congr (h.mono hpaths)]

/-- The judgement about a rule depends on the paths of the rule only, and on its handler if
it is a rule over the record. -/
theorem Engine.judge_congr_of_answerAlike (e : Engine)
    (hhandler : r.type = .crossField ∨ r.type = .business →
      ∀ handler, e.catalog.handler? r.id = some handler →
        handler r record₁ = handler r record₂) :
    e.judge p r record₁ = e.judge p r record₂ := by
  rw [judge, judge, Engine.triggers_congr h, judgeTriggered, judgeTriggered,
    Package.affectedValues_congr h]
  cases htype : r.type with
  | crossField | business =>
    simp only [Rule.assertionFinding_congr h e (hhandler (by simp [htype]))]
  | _ => rfl

end

/-! ### Packages -/

section

variable {p : Package} (h : AnswerAlike p.readPaths record₁ record₂)

include h

/-- The findings about the fields of a package depend on its read paths only. -/
theorem Engine.fieldFindings_congr (e : Engine) (reportType : String) :
    e.fieldFindings p reportType record₁ = e.fieldFindings p reportType record₂ :=
  List.flatMap_congr fun _ hf =>
    Field.findings_congr (h.mono (Package.readPaths_subset_readPaths hf)) e.evaluator reportType

/-- What a record says about the rules of a package depends on the read paths and on the
handlers only. -/
theorem Engine.judgeAll_congr_of_answerAlike (e : Engine) (reportType : String)
    (hhandlers : ∀ r ∈ p.rules, ∀ handler, e.catalog.handler? r.id = some handler →
      handler r record₁ = handler r record₂) :
    e.judgeAll p reportType record₁ = e.judgeAll p reportType record₂ := by
  rw [judgeAll, judgeAll]
  refine List.map_congr_left fun r hr => ?_
  have hrule : r ∈ p.rules := (List.mem_filter.1 hr).1
  exact Engine.judge_congr_of_answerAlike (h.mono (Package.rulePaths_subset_readPaths hrule)) e
    fun _ => hhandlers r hrule

end

end RegulatoryReporting
