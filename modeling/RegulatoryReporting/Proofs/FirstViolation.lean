import RegulatoryReporting.Proofs.ConsistentPackage
import RegulatoryReporting.Proofs.Numbering

/-!
# The First Violation of a Package

A package is consistent if every check of its header, its report types, its fields and its
rules succeeds (`Package.IsConsistent`). The checks are numbered like the sections of a
document: first the header, then the report types, the fields and the rules, each in the order
of their list; within a field or a rule its parts; and within a condition its leaves from left
to right, the path of a leaf before its pattern. What is wrong under a check is said without
regard to the others (`Package.HasViolation`).

Verification accepts exactly the consistent packages. For any other package it reports what is
wrong at the least place: nothing that comes later can hide it or take its place.

## Main results

* `Package.enumerates_violations` — violations are listed in the order of their places.
* `Package.verify_reports_first` — what is accepted, and what is reported otherwise.
-/

namespace RegulatoryReporting

/-! ### What is wrong, and where -/

/-- A check of a leaf. -/
inductive LeafPart
  | path
  | pattern
  deriving DecidableEq, Repr

/-- A check of a field. Codes of its scope and leaves of its condition have an index. -/
inductive FieldPart
  | id
  | path
  | pattern
  | lengths
  | scope (index : Nat)
  | condition (leaf : Nat) (part : LeafPart)
  deriving DecidableEq, Repr

/-- A check of a rule. Codes of its scope, affected fields and leaves of its conditions have
an index. -/
inductive RulePart
  | id
  | scope (index : Nat)
  | affectedField (index : Nat)
  | assertion (leaf : Nat) (part : LeafPart)
  | precondition (leaf : Nat) (part : LeafPart)
  deriving DecidableEq, Repr

/-- A check of a package. -/
inductive PackagePart
  | packageId
  | regulationCode
  /-- Some report type is declared. -/
  | reportTypes
  | reportType (index : Nat)
  | field (index : Nat) (part : FieldPart)
  | rule (index : Nat) (part : RulePart)
  deriving DecidableEq, Repr

/-- Where a check comes among those of a leaf. -/
def LeafPart.number : LeafPart → List Nat
  | path => [0]
  | pattern => [1]

/-- Where a check comes among those of a field. -/
def FieldPart.number : FieldPart → List Nat
  | id => [0]
  | path => [1]
  | pattern => [2]
  | lengths => [3]
  | scope index => [4, index]
  | condition leaf part => 5 :: leaf :: part.number

/-- Where a check comes among those of a rule. -/
def RulePart.number : RulePart → List Nat
  | id => [0]
  | scope index => [1, index]
  | affectedField index => [2, index]
  | assertion leaf part => 3 :: leaf :: part.number
  | precondition leaf part => 4 :: leaf :: part.number

/-- Where a check comes among those of a package. -/
def PackagePart.number : PackagePart → List Nat
  | packageId => [0]
  | regulationCode => [1]
  | reportTypes => [2]
  | reportType index => [3, index]
  | field index part => 4 :: index :: part.number
  | rule index part => 5 :: index :: part.number

/-- A check comes before another. -/
instance : LT PackagePart := ⟨fun a b => a.number < b.number⟩

/-- How the place of a check is called, given the name of the field. -/
def FieldPart.location (name : String) : FieldPart → String
  | id | path | lengths => name
  | pattern => name ++ ".pattern"
  | scope _ => name ++ ".report_types"
  | condition _ _ => name ++ ".condition_expr"

/-- How the place of a check is called, given the name of the rule. -/
def RulePart.location (name : String) : RulePart → String
  | id => name
  | scope _ => name ++ ".report_types"
  | affectedField _ => name ++ ".affected_fields"
  | assertion _ _ => name ++ ".condition_expr"
  | precondition _ _ => name ++ ".applies_when"

/-- A text is no path, for the given reason. -/
def IsNoPath (path : String) (d : Defect) : Prop :=
  ∃ cause, FieldPath.ofText path = .error cause ∧ d = .invalidPath cause

/-- A text is there, but is no pattern. -/
def IsNoPattern (text? : Option String) (d : Defect) : Prop :=
  ∃ text, text? = some text ∧ ¬ Compiles text ∧ d = .invalidPattern text

/-- What is wrong with a leaf under a check. -/
def ConditionLeaf.HasDefect (l : ConditionLeaf) : LeafPart → Defect → Prop
  | .path, d => IsNoPath l.field d
  | .pattern, d => IsNoPattern l.pattern? d

/-- What is wrong with a leaf of a condition, if there is a condition. -/
def HasLeafDefect (condition : Option Condition) (leaf : Nat) (part : LeafPart) (d : Defect) :
    Prop :=
  ∃ c l, condition = some c ∧ c.leaves[leaf]? = some l ∧ l.HasDefect part d

/-- What is wrong with a code of a scope. -/
def HasScopeDefect (declared : List String) (scope : Option (List String)) (index : Nat)
    (d : Defect) : Prop :=
  ∃ codes code, scope = some codes ∧ codes[index]? = some code ∧
    Text.normalizeCode code ∉ declared ∧ d = .unknownReportType code

/-- What is wrong with a report type, given the normalised codes before it. -/
def ReportType.HasDefect (before : List String) (t : ReportType) (d : Defect) : Prop :=
  Text.isBlank t.code = true ∧ d = .blankReportType ∨
    Text.isBlank t.code = false ∧ Text.normalizeCode t.code ∈ before ∧
      d = .duplicateReportType t.code

/-- What is wrong with a field under a check. -/
def Field.HasDefect (declared : List String) (f : Field) : FieldPart → Defect → Prop
  | .id, d => Text.isBlank f.id = true ∧ d = .blankFieldId
  | .path, d => IsNoPath f.lookupPath d
  | .pattern, d => IsNoPattern f.pattern d
  | .lengths, d => ∃ least most, f.minLength = some least ∧ f.maxLength = some most ∧
      most < least ∧ d = .invertedLengths least most
  | .scope index, d => HasScopeDefect declared f.reportTypes index d
  | .condition leaf part, d => HasLeafDefect f.condition leaf part d

/-- What is wrong with a rule under a check. -/
def Rule.HasDefect (declared : List String) (r : Rule) : RulePart → Defect → Prop
  | .id, d => Text.isBlank r.id = true ∧ d = .blankRuleId
  | .scope index, d => HasScopeDefect declared r.reportTypes index d
  | .affectedField index, d => ∃ field, r.affectedFields[index]? = some field ∧ IsNoPath field d
  | .assertion leaf part, d => HasLeafDefect r.assertion leaf part d
  | .precondition leaf part, d => HasLeafDefect r.precondition leaf part d

/-- What is wrong with a package under a check, and how the place of the check is called. -/
def Package.HasViolation (p : Package) : PackagePart → Violation → Prop
  | .packageId, v => Text.isBlank p.id = true ∧ v = ⟨"package_id", .blankPackageId⟩
  | .regulationCode, v =>
    Text.isBlank p.regulationCode = true ∧ v = ⟨"regulation_code", .blankRegulationCode⟩
  | .reportTypes, v => p.reportTypes = [] ∧ v = ⟨"report_types", .noReportTypes⟩
  | .reportType index, v => ∃ t d, p.reportTypes[index]? = some t ∧
      t.HasDefect ((p.reportTypes.take index).map fun u => Text.normalizeCode u.code) d ∧
      v = ⟨s!"report_types[{index}]", d⟩
  | .field index part, v => ∃ f d, p.fields[index]? = some f ∧
      f.HasDefect p.declaredCodes part d ∧ v = ⟨part.location s!"fields[{index}] ({f.id})", d⟩
  | .rule index part, v => ∃ r d, p.rules[index]? = some r ∧
      r.HasDefect p.declaredCodes part d ∧
      v = ⟨part.location s!"validation_rules[{index}] ({r.id})", d⟩

/-! ### Parts in order -/

/-- Why a text is no path. -/
theorem pathDefect?_eq_some_iff {path : String} {d : Defect} :
    pathDefect? path = some d ↔ IsNoPath path d := by
  rw [pathDefect?, IsNoPath]
  cases FieldPath.ofText path <;> simp [eq_comm]

/-- Why a text that may be missing is no pattern. -/
theorem bind_patternDefect?_eq_some_iff {text? : Option String} {d : Defect} :
    text?.bind patternDefect? = some d ↔ IsNoPattern text? d := by
  cases text? with
  | none => simp [IsNoPattern]
  | some text =>
    rw [Option.bind_some, patternDefect?, IsNoPattern]
    cases hpattern : Pattern.ofText? text <;> simp [Compiles, hpattern, eq_comm]

/-- A text that must not be blank has a defect if it is. -/
theorem blankDefect?_eq_some_iff {text : String} {defect d : Defect} :
    blankDefect? defect text = some d ↔ Text.isBlank text = true ∧ d = defect := by
  rw [blankDefect?]
  cases Text.isBlank text <;> simp [eq_comm]

/-- Why the lengths of a field leave no room for a text. -/
theorem Field.lengthDefect?_eq_some_iff (declared : List String) {f : Field} {d : Defect} :
    f.lengthDefect? = some d ↔ f.HasDefect declared .lengths d := by
  rw [lengthDefect?, HasDefect]
  cases f.minLength <;> cases f.maxLength <;> simp [eq_comm]

/-- The defects of a leaf in order. -/
theorem ConditionLeaf.enumerates_defects (l : ConditionLeaf) :
    Enumerates (fun place d => ∃ part : LeafPart, place = part.number ∧ l.HasDefect part d)
      l.defects := by
  have hlist : l.defects =
      (pathDefect? l.field).toList ++ ((l.pattern?.bind patternDefect?).toList ++ []) := by
    rw [List.append_nil, defects]
  rw [hlist]
  refine (Sections.cons (Enumerates.toList _) <| Sections.cons (Enumerates.toList _) <|
    Sections.nil 2).enumerates.congr fun place d => ?_
  simp only [pathDefect?_eq_some_iff, bind_patternDefect?_eq_some_iff]
  constructor
  · rintro (⟨_, rfl, rfl, hd⟩ | ⟨_, rfl, rfl, hd⟩ | hnone)
    · exact ⟨.path, rfl, hd⟩
    · exact ⟨.pattern, rfl, hd⟩
    · exact hnone.elim
  · rintro ⟨part, rfl, hd⟩
    cases part with
    | path => exact .inl ⟨[], rfl, rfl, hd⟩
    | pattern => exact .inr (.inl ⟨[], rfl, rfl, hd⟩)

/-- The defects of a condition, if there is one, in order. -/
theorem enumerates_conditionDefects (condition : Option Condition) :
    Enumerates
      (fun place d => ∃ leaf, ∃ part : LeafPart, place = leaf :: part.number ∧
        HasLeafDefect condition leaf part d)
      (condition.toList.flatMap (·.defects)) := by
  cases condition with
  | none =>
    refine (Enumerates.toList none).congr fun place d => iff_of_false (fun h => nomatch h.2) ?_
    rintro ⟨leaf, part, -, c, l, hc, -⟩
    cases hc
  | some c =>
    rw [Option.toList_some, List.flatMap_singleton, Condition.defects]
    refine (enumerates_flatMap ConditionLeaf.enumerates_defects c.leaves).congr
      fun place d => ?_
    constructor
    · rintro ⟨leaf, l, _, hl, rfl, part, rfl, hd⟩
      exact ⟨leaf, part, rfl, c, l, rfl, hl, hd⟩
    · rintro ⟨leaf, part, rfl, other, l, hother, hl, hd⟩
      obtain rfl := Option.some.inj hother
      exact ⟨leaf, l, part.number, hl, rfl, part, rfl, hd⟩

/-- The defects of texts in order. -/
theorem enumerates_filterMap (defect? : String → Option Defect) (texts : List String) :
    Enumerates
      (fun place d => ∃ index, place = [index] ∧
        ∃ text, texts[index]? = some text ∧ defect? text = some d)
      (texts.filterMap defect?) := by
  rw [List.filterMap_eq_flatMap_toList]
  refine (enumerates_flatMap (fun _ => Enumerates.toList _) _).congr fun place d => ?_
  constructor
  · rintro ⟨index, text, _, htext, rfl, rfl, hd⟩
    exact ⟨index, rfl, text, htext, hd⟩
  · rintro ⟨index, rfl, text, htext, hd⟩
    exact ⟨index, text, [], htext, rfl, rfl, hd⟩

/-- The defects of a scope in order. -/
theorem enumerates_scopeDefects (declared : List String) (scope : Option (List String)) :
    Enumerates
      (fun place d => ∃ index, place = [index] ∧ HasScopeDefect declared scope index d)
      (scopeDefects declared scope) := by
  have hdefect : ∀ code d, scopeDefect? declared code = some d ↔
      Text.normalizeCode code ∉ declared ∧ d = .unknownReportType code := by
    intro code d
    by_cases hcode : Text.normalizeCode code ∈ declared <;> simp [scopeDefect?, hcode, eq_comm]
  refine (enumerates_filterMap _ _).congr fun place d => exists_congr fun index =>
    and_congr_right fun _ => ?_
  simp only [hdefect]
  cases scope with
  | none => simp [HasScopeDefect]
  | some codes => simp [HasScopeDefect]

/-! ### Fields and rules in order -/

/-- Defects at a place are listed as they come. -/
theorem Enumerates.violationsAt {HasDefect : List Nat → Defect → Prop} {defects : List Defect}
    (location : String) (h : Enumerates HasDefect defects) :
    Enumerates (fun place v => ∃ d, HasDefect place d ∧ v = ⟨location, d⟩)
      (RegulatoryReporting.violationsAt location defects) :=
  h.map _

/-- The violations of a field in order. -/
theorem Field.enumerates_violations (declared : List String) (index : Nat) (f : Field) :
    Enumerates
      (fun place v => ∃ (part : FieldPart) (d : Defect), place = part.number ∧
        f.HasDefect declared part d ∧ v = ⟨part.location s!"fields[{index}] ({f.id})", d⟩)
      (f.violations declared index) := by
  simp only [violations, List.flatten_cons, List.flatten_nil]
  generalize s!"fields[{index}] ({f.id})" = name
  refine (Sections.cons ((Enumerates.toList _).violationsAt _) <|
    Sections.cons ((Enumerates.toList _).violationsAt _) <|
    Sections.cons ((Enumerates.toList _).violationsAt _) <|
    Sections.cons ((Enumerates.toList _).violationsAt _) <|
    Sections.cons ((enumerates_scopeDefects _ _).violationsAt _) <|
    Sections.cons ((enumerates_conditionDefects _).violationsAt _) <|
    Sections.nil 6).enumerates.congr fun place v => ?_
  simp only [blankDefect?_eq_some_iff, pathDefect?_eq_some_iff, bind_patternDefect?_eq_some_iff,
    lengthDefect?_eq_some_iff declared]
  constructor
  · rintro (⟨_, rfl, d, ⟨rfl, hd⟩, rfl⟩ | ⟨_, rfl, d, ⟨rfl, hd⟩, rfl⟩ |
      ⟨_, rfl, d, ⟨rfl, hd⟩, rfl⟩ | ⟨_, rfl, d, ⟨rfl, hd⟩, rfl⟩ |
      ⟨_, rfl, d, ⟨index, rfl, hd⟩, rfl⟩ | ⟨_, rfl, d, ⟨leaf, part, rfl, hd⟩, rfl⟩ | hnone)
    · exact ⟨.id, d, rfl, hd, rfl⟩
    · exact ⟨.path, d, rfl, hd, rfl⟩
    · exact ⟨.pattern, d, rfl, hd, rfl⟩
    · exact ⟨.lengths, d, rfl, hd, rfl⟩
    · exact ⟨.scope index, d, rfl, hd, rfl⟩
    · exact ⟨.condition leaf part, d, rfl, hd, rfl⟩
    · exact hnone.elim
  · rintro ⟨part, d, rfl, hd, rfl⟩
    cases part with
    | id => exact .inl ⟨_, rfl, d, ⟨rfl, hd⟩, rfl⟩
    | path => exact .inr <| .inl ⟨_, rfl, d, ⟨rfl, hd⟩, rfl⟩
    | pattern => exact .inr <| .inr <| .inl ⟨_, rfl, d, ⟨rfl, hd⟩, rfl⟩
    | lengths => exact .inr <| .inr <| .inr <| .inl ⟨_, rfl, d, ⟨rfl, hd⟩, rfl⟩
    | scope index =>
      exact .inr <| .inr <| .inr <| .inr <| .inl ⟨_, rfl, d, ⟨index, rfl, hd⟩, rfl⟩
    | condition leaf part =>
      exact .inr <| .inr <| .inr <| .inr <| .inr <| .inl ⟨_, rfl, d, ⟨leaf, part, rfl, hd⟩, rfl⟩

/-- The violations of a rule in order. -/
theorem Rule.enumerates_violations (declared : List String) (index : Nat) (r : Rule) :
    Enumerates
      (fun place v => ∃ (part : RulePart) (d : Defect), place = part.number ∧
        r.HasDefect declared part d ∧
        v = ⟨part.location s!"validation_rules[{index}] ({r.id})", d⟩)
      (r.violations declared index) := by
  simp only [violations, List.flatten_cons, List.flatten_nil]
  generalize s!"validation_rules[{index}] ({r.id})" = name
  refine (Sections.cons ((Enumerates.toList _).violationsAt _) <|
    Sections.cons ((enumerates_scopeDefects _ _).violationsAt _) <|
    Sections.cons ((enumerates_filterMap _ _).violationsAt _) <|
    Sections.cons ((enumerates_conditionDefects _).violationsAt _) <|
    Sections.cons ((enumerates_conditionDefects _).violationsAt _) <|
    Sections.nil 5).enumerates.congr fun place v => ?_
  simp only [blankDefect?_eq_some_iff, pathDefect?_eq_some_iff]
  constructor
  · rintro (⟨_, rfl, d, ⟨rfl, hd⟩, rfl⟩ | ⟨_, rfl, d, ⟨index, rfl, hd⟩, rfl⟩ |
      ⟨_, rfl, d, ⟨index, rfl, hd⟩, rfl⟩ | ⟨_, rfl, d, ⟨leaf, part, rfl, hd⟩, rfl⟩ |
      ⟨_, rfl, d, ⟨leaf, part, rfl, hd⟩, rfl⟩ | hnone)
    · exact ⟨.id, d, rfl, hd, rfl⟩
    · exact ⟨.scope index, d, rfl, hd, rfl⟩
    · exact ⟨.affectedField index, d, rfl, hd, rfl⟩
    · exact ⟨.assertion leaf part, d, rfl, hd, rfl⟩
    · exact ⟨.precondition leaf part, d, rfl, hd, rfl⟩
    · exact hnone.elim
  · rintro ⟨part, d, rfl, hd, rfl⟩
    cases part with
    | id => exact .inl ⟨_, rfl, d, ⟨rfl, hd⟩, rfl⟩
    | scope index => exact .inr <| .inl ⟨_, rfl, d, ⟨index, rfl, hd⟩, rfl⟩
    | affectedField index => exact .inr <| .inr <| .inl ⟨_, rfl, d, ⟨index, rfl, hd⟩, rfl⟩
    | assertion leaf part =>
      exact .inr <| .inr <| .inr <| .inl ⟨_, rfl, d, ⟨leaf, part, rfl, hd⟩, rfl⟩
    | precondition leaf part =>
      exact .inr <| .inr <| .inr <| .inr <| .inl ⟨_, rfl, d, ⟨leaf, part, rfl, hd⟩, rfl⟩

/-! ### Packages in order -/

/-- What is wrong with a report type. -/
theorem ReportType.defect?_eq_some_iff {before : List String} {t : ReportType} {d : Defect} :
    t.defect? before = some d ↔ t.HasDefect before d := by
  have hblank : (Text.normalizeCode t.code).isEmpty = true ↔ Text.isBlank t.code = true := by
    rw [String.isEmpty_iff, Text.normalizeCode_eq_empty_iff]
  rw [defect?]
  by_cases hcode : Text.isBlank t.code = true
  · rw [if_pos (hblank.2 hcode)]
    simp [HasDefect, hcode, eq_comm]
  · rw [if_neg (mt hblank.1 hcode)]
    by_cases hseen : Text.normalizeCode t.code ∈ before <;>
      simp [HasDefect, hcode, hseen, eq_comm]

/-- The violations of report types in order, given the index of the first and the normalised
codes before. -/
theorem sections_reportTypeViolations (index : Nat) (before : List String)
    (ts : List ReportType) :
    Sections index
      (fun place v => ∃ i t d, ts[i]? = some t ∧ place = [index + i] ∧
        t.HasDefect (before ++ (ts.take i).map fun u => Text.normalizeCode u.code) d ∧
        v = ⟨s!"report_types[{index + i}]", d⟩)
      (reportTypeViolations index before ts) := by
  induction ts generalizing index before with
  | nil => exact (Sections.nil index).congr fun place v => by simp
  | cons t ts ih =>
    rw [reportTypeViolations]
    have hmoved : ∀ i, before ++ [Text.normalizeCode t.code] ++
          (ts.take i).map (fun u => Text.normalizeCode u.code) =
        before ++ ((t :: ts).take (i + 1)).map fun u => Text.normalizeCode u.code := by
      intro i
      rw [List.take_succ_cons, List.map_cons, List.append_assoc, List.singleton_append]
    refine (Sections.cons ((Enumerates.toList _).violationsAt _)
      (ih (index + 1) (before ++ [Text.normalizeCode t.code]))).congr fun place v => ?_
    simp only [ReportType.defect?_eq_some_iff, hmoved]
    constructor
    · rintro (⟨_, rfl, d, ⟨rfl, hd⟩, rfl⟩ | ⟨i, u, d, hu, rfl, hd, rfl⟩)
      · refine ⟨0, t, d, rfl, rfl, ?_, rfl⟩
        rwa [List.take_zero, List.map_nil, List.append_nil]
      · have hindex : index + 1 + i = index + (i + 1) := by omega
        rw [hindex]
        exact ⟨i + 1, u, d, hu, rfl, hd, rfl⟩
    · rintro ⟨i, u, d, hu, rfl, hd, rfl⟩
      cases i with
      | zero =>
        obtain rfl : t = u := Option.some.inj hu
        rw [List.take_zero, List.map_nil, List.append_nil] at hd
        exact .inl ⟨[], rfl, d, ⟨rfl, hd⟩, rfl⟩
      | succ i =>
        have hindex : index + (i + 1) = index + 1 + i := by omega
        rw [hindex]
        exact .inr ⟨i, u, d, hu, rfl, hd, rfl⟩

/-- The violations of a package are listed in the order of their places. -/
theorem Package.enumerates_violations (p : Package) :
    Enumerates (fun place v => ∃ part : PackagePart, place = part.number ∧ p.HasViolation part v)
      p.violations := by
  have hfields := sections_flatMap_zipIdx (f := fun (f : Field) i => f.violations p.declaredCodes i)
    (fun i f => f.enumerates_violations p.declaredCodes i) p.fields 0
  have hrules := sections_flatMap_zipIdx (f := fun (r : Rule) i => r.violations p.declaredCodes i)
    (fun i r => r.enumerates_violations p.declaredCodes i) p.rules 0
  simp only [violations, List.flatten_cons, List.flatten_nil]
  refine (Sections.cons ((Enumerates.toList _).violationsAt _) <|
    Sections.cons ((Enumerates.toList _).violationsAt _) <|
    Sections.cons ((Enumerates.toList _).violationsAt _) <|
    Sections.cons (sections_reportTypeViolations 0 [] p.reportTypes).enumerates <|
    Sections.cons hfields.enumerates <| Sections.cons hrules.enumerates <|
    Sections.nil 6).enumerates.congr fun place v => ?_
  simp only [Nat.zero_add, List.nil_append, blankDefect?_eq_some_iff, List.isEmpty_iff,
    Option.ite_none_right_eq_some, Option.some.injEq]
  constructor
  · rintro (⟨_, rfl, d, ⟨rfl, hd, rfl⟩, rfl⟩ | ⟨_, rfl, d, ⟨rfl, hd, rfl⟩, rfl⟩ |
      ⟨_, rfl, d, ⟨rfl, hd, rfl⟩, rfl⟩ | ⟨_, rfl, i, t, d, ht, rfl, hd, rfl⟩ |
      ⟨_, rfl, i, f, _, hf, rfl, part, d, rfl, hd, rfl⟩ |
      ⟨_, rfl, i, r, _, hr, rfl, part, d, rfl, hd, rfl⟩ | hnone)
    · exact ⟨.packageId, rfl, hd, rfl⟩
    · exact ⟨.regulationCode, rfl, hd, rfl⟩
    · exact ⟨.reportTypes, rfl, hd, rfl⟩
    · exact ⟨.reportType i, rfl, t, d, ht, hd, rfl⟩
    · exact ⟨.field i part, rfl, f, d, hf, hd, rfl⟩
    · exact ⟨.rule i part, rfl, r, d, hr, hd, rfl⟩
    · exact hnone.elim
  · rintro ⟨part, rfl, hv⟩
    cases part with
    | packageId =>
      obtain ⟨hd, rfl⟩ := hv
      exact .inl ⟨_, rfl, _, ⟨rfl, hd, rfl⟩, rfl⟩
    | regulationCode =>
      obtain ⟨hd, rfl⟩ := hv
      exact .inr <| .inl ⟨_, rfl, _, ⟨rfl, hd, rfl⟩, rfl⟩
    | reportTypes =>
      obtain ⟨hd, rfl⟩ := hv
      exact .inr <| .inr <| .inl ⟨_, rfl, _, ⟨rfl, hd, rfl⟩, rfl⟩
    | reportType i =>
      obtain ⟨t, d, ht, hd, rfl⟩ := hv
      exact .inr <| .inr <| .inr <| .inl ⟨_, rfl, i, t, d, ht, rfl, hd, rfl⟩
    | field i part =>
      obtain ⟨f, d, hf, hd, rfl⟩ := hv
      exact .inr <| .inr <| .inr <| .inr <| .inl
        ⟨_, rfl, i, f, _, hf, rfl, part, d, rfl, hd, rfl⟩
    | rule i part =>
      obtain ⟨r, d, hr, hd, rfl⟩ := hv
      exact .inr <| .inr <| .inr <| .inr <| .inr <| .inl
        ⟨_, rfl, i, r, _, hr, rfl, part, d, rfl, hd, rfl⟩

/-! ### The report of verification -/

/-- **Verification reports the first violation.** A package is accepted exactly if it is
consistent. Otherwise the error names the package and what is wrong under one of the checks,
and before this check, in the order of the header, the report types, the fields and the rules,
nothing is wrong. -/
theorem Package.verify_reports_first (p : Package) :
    (p.verify = .ok () ↔ p.IsConsistent) ∧
    ∀ fault, p.verify = .error fault ↔
      fault.packageId = p.calledId ∧
      ∃ part, p.HasViolation part fault.violation ∧
        ∀ earlier < part, ∀ v, ¬ p.HasViolation earlier v := by
  refine ⟨verify_eq_ok_iff_isConsistent, fun fault => ?_⟩
  rw [verify_eq_error_iff, p.enumerates_violations.head?_eq_some_iff]
  refine and_congr_right fun _ => ?_
  constructor
  · rintro ⟨_, ⟨part, rfl, hviolation⟩, hleast⟩
    exact ⟨part, hviolation, fun earlier hlt v hv => hleast _ hlt v ⟨earlier, rfl, hv⟩⟩
  · rintro ⟨part, hviolation, hleast⟩
    refine ⟨part.number, ⟨part, rfl, hviolation⟩, ?_⟩
    rintro _ hlt v ⟨earlier, rfl, hv⟩
    exact hleast earlier hlt v hv

end RegulatoryReporting
