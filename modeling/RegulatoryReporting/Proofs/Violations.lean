import Mathlib.Data.List.Basic
import RegulatoryReporting.Package.Verification

/-!
# The Violations of a Package

Verification ends with the first violation it meets. This module lists all violations of a
package, each part beside the check of that part, and shows that a check reports the head of
its list (`reportFirst`). Whatever is to be said about verification can be said about the lists,
which unlike the checks do not depend on one another.

`reportFirst` turns lists into checks: one list after the other is one check after the other
(`reportFirst_append`). So each check is the report of its list by the lemmas of its parts, and
a change of one check changes its list and one lemma.

## Main results

* `Condition.check_eq` — the visit of the leaves finds the first of the defects of a condition.
* `Package.verify_eq_ok_iff`, `Package.verify_eq_error_iff` — a package is accepted when it has
  no violation, and else refused with the first.
-/

namespace RegulatoryReporting

/-! ### Lists of violations -/

/-- Report the first of several violations. -/
def reportFirst : List Violation → Except Violation Unit
  | [] => .ok ()
  | first :: _ => .error first

/-- Defects at a place. -/
def violationsAt (location : String) (defects : List Defect) : List Violation :=
  defects.map fun defect => ⟨location, defect⟩

/-- A place without defect is passed, and a defect reported. -/
theorem refuse_eq (location : String) (defect? : Option Defect) :
    refuse location defect? = reportFirst (violationsAt location defect?.toList) := by
  cases defect? <;> rfl

/-- The first of two lists is the first of the one, and if that is empty, the first of the
other. -/
theorem reportFirst_append (vs ws : List Violation) :
    reportFirst (vs ++ ws) = (do reportFirst vs; reportFirst ws) := by
  cases vs <;> rfl

/-- Checks of the members of a list, one after the other, report the first of all violations. -/
theorem forM_eq_reportFirst {α : Type} {f : α → Except Violation Unit} {g : α → List Violation}
    (h : ∀ x, f x = reportFirst (g x)) (xs : List α) :
    xs.forM f = reportFirst (xs.flatMap g) := by
  induction xs with
  | nil => rfl
  | cons x xs ih =>
    rw [List.flatMap_cons, reportFirst_append, ← h, ← ih]
    rfl

/-- The check of an optional part reports the first violation of that part. -/
theorem option_forM_eq_reportFirst {α : Type} {f : α → Except Violation Unit}
    {g : α → List Violation} (h : ∀ x, f x = reportFirst (g x)) (x? : Option α) :
    x?.forM f = reportFirst (x?.toList.flatMap g) := by
  cases x? with
  | none => rfl
  | some x => rw [Option.toList_some, List.flatMap_singleton, ← h, Option.forM]

/-! ### Conditions -/

/-- The defects of a leaf: its path, then its pattern. -/
def ConditionLeaf.defects (l : ConditionLeaf) : List Defect :=
  (pathDefect? l.field).toList ++ (l.pattern?.bind patternDefect?).toList

/-- The defects of a condition, from left to right. -/
def Condition.defects (c : Condition) : List Defect := c.leaves.flatMap (·.defects)

/-- The violations of an optional condition. -/
def conditionViolations (location : String) (c : Option Condition) : List Violation :=
  violationsAt location (c.toList.flatMap (·.defects))

/-- The check of a leaf reports its first defect. -/
theorem ConditionLeaf.check_eq (location : String) (l : ConditionLeaf) :
    l.check location = reportFirst (violationsAt location l.defects) := by
  rw [check, refuse_eq, refuse_eq, defects, ← reportFirst_append, violationsAt, violationsAt,
    violationsAt, List.map_append]

/-- A leaf adds its defects to what was found before it. -/
theorem ConditionLeaf.visit_reportFirst (location : String) (vs : List Violation)
    (l : ConditionLeaf) :
    visit location (reportFirst vs) l = reportFirst (vs ++ violationsAt location l.defects) := by
  cases vs with
  | nil => exact l.check_eq location
  | cons first rest => rfl

/-- Visited leaves add their defects to what was found before them. -/
theorem foldl_visit_reportFirst (location : String) (vs : List Violation)
    (ls : List ConditionLeaf) :
    ls.foldl (ConditionLeaf.visit location) (reportFirst vs) =
      reportFirst (vs ++ violationsAt location (ls.flatMap (·.defects))) := by
  induction ls generalizing vs with
  | nil => rw [List.flatMap_nil, violationsAt, List.map_nil, List.append_nil, List.foldl_nil]
  | cons l ls ih =>
    rw [List.foldl_cons, ConditionLeaf.visit_reportFirst, ih, List.flatMap_cons, violationsAt,
      violationsAt, violationsAt, List.map_append, List.append_assoc]

/-- **The visit of the leaves keeps the first error.** It is the first of the defects of the
condition. -/
theorem Condition.check_eq (location : String) (c : Condition) :
    c.check location = reportFirst (violationsAt location c.defects) :=
  foldl_visit_reportFirst location [] c.leaves

/-- The check of an optional condition reports its first violation. -/
theorem forM_check_eq (location : String) (c? : Option Condition) :
    c?.forM (·.check location) = reportFirst (conditionViolations location c?) := by
  rw [option_forM_eq_reportFirst (Condition.check_eq location), conditionViolations, violationsAt,
    List.map_flatMap]
  rfl

/-! ### Fields and rules -/

/-- The defects of a scope: its codes that are not declared. -/
def scopeDefects (declared : List String) (scope : Option (List String)) : List Defect :=
  (scope.getD []).filterMap (scopeDefect? declared)

/-- The violations of a field, given its index and the declared report types. -/
def Field.violations (declared : List String) (index : Nat) (f : Field) : List Violation :=
  let location := s!"fields[{index}] ({f.id})"
  [violationsAt location (blankDefect? .blankFieldId f.id).toList,
    violationsAt location (pathDefect? f.lookupPath).toList,
    violationsAt (location ++ ".pattern") (f.pattern.bind patternDefect?).toList,
    violationsAt location f.lengthDefect?.toList,
    violationsAt (location ++ ".report_types") (scopeDefects declared f.reportTypes),
    conditionViolations (location ++ ".condition_expr") f.condition].flatten

/-- The violations of a rule, given its index and the declared report types. -/
def Rule.violations (declared : List String) (index : Nat) (r : Rule) : List Violation :=
  let location := s!"validation_rules[{index}] ({r.id})"
  [violationsAt location (blankDefect? .blankRuleId r.id).toList,
    violationsAt (location ++ ".report_types") (scopeDefects declared r.reportTypes),
    violationsAt (location ++ ".affected_fields") (r.affectedFields.filterMap pathDefect?),
    conditionViolations (location ++ ".condition_expr") r.assertion,
    conditionViolations (location ++ ".applies_when") r.precondition].flatten

/-- The check of texts one after the other reports the first defect. -/
theorem checkEach_eq (location : String) (defect? : String → Option Defect)
    (texts : List String) :
    checkEach location defect? texts =
      reportFirst (violationsAt location (texts.filterMap defect?)) := by
  rw [checkEach, forM_eq_reportFirst fun _ => refuse_eq location _,
    List.filterMap_eq_flatMap_toList, violationsAt, List.map_flatMap]
  rfl

/-- The check of a field reports its first violation. -/
theorem Field.check_eq (declared : List String) (index : Nat) (f : Field) :
    f.check declared index = reportFirst (f.violations declared index) := by
  simp only [check, violations, scopeDefects, List.flatten_cons, List.flatten_nil,
    List.append_nil, reportFirst_append, refuse_eq, checkScope, checkEach_eq, forM_check_eq]

/-- The check of a rule reports its first violation. -/
theorem Rule.check_eq (declared : List String) (index : Nat) (r : Rule) :
    r.check declared index = reportFirst (r.violations declared index) := by
  simp only [check, violations, scopeDefects, List.flatten_cons, List.flatten_nil,
    List.append_nil, reportFirst_append, refuse_eq, checkScope, checkEach_eq, forM_check_eq]

/-! ### Packages -/

/-- The violations of report types from an index on, given the normalised codes before. -/
def reportTypeViolations : Nat → List String → List ReportType → List Violation
  | _, _, [] => []
  | index, before, t :: rest =>
    violationsAt s!"report_types[{index}]" (t.defect? before).toList ++
      reportTypeViolations (index + 1) (before ++ [Text.normalizeCode t.code]) rest

/-- The normalised codes that a package declares. -/
def Package.declaredCodes (p : Package) : List String :=
  p.reportTypeCodes.map Text.normalizeCode

/-- The violations of a package in order. -/
def Package.violations (p : Package) : List Violation :=
  [violationsAt "package_id" (blankDefect? .blankPackageId p.id).toList,
    violationsAt "regulation_code" (blankDefect? .blankRegulationCode p.regulationCode).toList,
    violationsAt "report_types"
      (if p.reportTypes.isEmpty then some Defect.noReportTypes else none).toList,
    reportTypeViolations 0 [] p.reportTypes,
    p.fields.zipIdx.flatMap fun entry => entry.1.violations p.declaredCodes entry.2,
    p.rules.zipIdx.flatMap fun entry => entry.1.violations p.declaredCodes entry.2].flatten

/-- The check of report types reports the first violation, or returns their codes after those
before. -/
theorem collectCodes_eq (index : Nat) (before : List String) (ts : List ReportType) :
    collectCodes index before ts = (do
      reportFirst (reportTypeViolations index before ts)
      pure (before ++ ts.map fun t => Text.normalizeCode t.code)) := by
  induction ts generalizing index before with
  | nil => rw [List.map_nil, List.append_nil]; rfl
  | cons t ts ih =>
    rw [collectCodes, reportTypeViolations, refuse_eq, ih, reportFirst_append, bind_assoc,
      List.append_assoc]
    rfl

/-- The checks of a package report its first violation. -/
theorem Package.check_eq (p : Package) : p.check = reportFirst p.violations := by
  have hcodes : ([] ++ p.reportTypes.map fun t => Text.normalizeCode t.code) =
      p.declaredCodes := by
    rw [declaredCodes, reportTypeCodes, List.map_map]
    rfl
  have hfields := forM_eq_reportFirst (f := fun entry : Field × Nat =>
    entry.1.check p.declaredCodes entry.2) fun entry => entry.1.check_eq _ entry.2
  have hrules := forM_eq_reportFirst (f := fun entry : Rule × Nat =>
    entry.1.check p.declaredCodes entry.2) fun entry => entry.1.check_eq _ entry.2
  simp only [check, violations, List.flatten_cons, List.flatten_nil, List.append_nil,
    reportFirst_append, refuse_eq, collectCodes_eq, bind_assoc, pure_bind, hcodes, ← hfields,
    ← hrules]

/-- A package is accepted when it has no violation, and else refused with the first. -/
theorem Package.verify_eq (p : Package) :
    p.verify = (reportFirst p.violations).mapError (⟨p.calledId, ·⟩) := by
  rw [verify, check_eq]

/-- A package is accepted when it has no violation. -/
theorem Package.verify_eq_ok_iff (p : Package) : p.verify = .ok () ↔ p.violations = [] := by
  rw [verify_eq]
  cases p.violations <;> simp [reportFirst, Except.mapError]

/-- A package is refused with its first violation. -/
theorem Package.verify_eq_error_iff {p : Package} {fault : VerificationError} :
    p.verify = .error fault ↔
      fault.packageId = p.calledId ∧ p.violations.head? = some fault.violation := by
  obtain ⟨packageId, violation⟩ := fault
  rw [verify_eq]
  cases p.violations <;> simp [reportFirst, Except.mapError, eq_comm]

end RegulatoryReporting
