import RegulatoryReporting.Proofs.Violations

/-!
# Consistent Packages

What it means that a package does not contradict itself, said without regard to the order in
which verification looks at it: the header is there, the codes of the report types differ,
paths and patterns can be read, bounds leave room, and scopes name declared report types
(`Package.IsConsistent`). A package has no violation exactly if it is consistent. All that is
known of accepted packages follows from this.

## Main results

* `reportTypeViolations_eq_nil_iff` — what verification says about declared codes.
* `Field.violations_eq_nil_iff`, `Rule.violations_eq_nil_iff` — consistent fields and rules.
* `Package.verify_eq_ok_iff_isConsistent` — what is accepted.
-/

namespace RegulatoryReporting

/-- A text is a path. -/
def IsReadable (path : String) : Prop := ∃ read, FieldPath.ofText path = .ok read

/-- A text is a pattern. -/
def Compiles (text : String) : Prop := ∃ pattern, Pattern.ofText? text = some pattern

/-- Every leaf of a condition has a path and, if it matches against a text, a pattern. -/
def Condition.HasSoundLeaves (c : Condition) : Prop :=
  ∀ l ∈ c.leaves, IsReadable l.field ∧ ∀ text, l.pattern? = some text → Compiles text

/-- Every code of a scope is declared. -/
def IsScopeOf (declared : List String) (scope : Option (List String)) : Prop :=
  ∀ codes, scope = some codes → ∀ code ∈ codes, Text.normalizeCode code ∈ declared

/-- A field that contradicts neither itself nor the declared report types. -/
structure Field.IsConsistent (declared : List String) (f : Field) : Prop where
  /-- It has an id. -/
  id : Text.isBlank f.id = false
  /-- Its value is looked up at a path. -/
  path : IsReadable f.lookupPath
  /-- Its pattern compiles. -/
  pattern : ∀ text, f.pattern = some text → Compiles text
  /-- Its lengths leave room for a text. -/
  lengths : ∀ least most, f.minLength = some least → f.maxLength = some most → least ≤ most
  /-- It is limited to declared report types. -/
  scope : IsScopeOf declared f.reportTypes
  /-- The leaves of its condition are sound. -/
  condition : ∀ c, f.condition = some c → c.HasSoundLeaves

/-- A rule that contradicts neither itself nor the declared report types. -/
structure Rule.IsConsistent (declared : List String) (r : Rule) : Prop where
  /-- It has an id. -/
  id : Text.isBlank r.id = false
  /-- It is limited to declared report types. -/
  scope : IsScopeOf declared r.reportTypes
  /-- Its affected fields are written as paths. -/
  affectedFields : ∀ field ∈ r.affectedFields, IsReadable field
  /-- The leaves of its assertion are sound. -/
  assertion : ∀ c, r.assertion = some c → c.HasSoundLeaves
  /-- The leaves of its precondition are sound. -/
  precondition : ∀ c, r.precondition = some c → c.HasSoundLeaves

/-- A package that does not contradict itself. -/
structure Package.IsConsistent (p : Package) : Prop where
  /-- It has an id. -/
  id : Text.isBlank p.id = false
  /-- It has the code of a regulation. -/
  regulationCode : Text.isBlank p.regulationCode = false
  /-- It declares a report type. -/
  reportTypes : p.reportTypes ≠ []
  /-- Its report types have codes. -/
  codes : ∀ t ∈ p.reportTypes, Text.isBlank t.code = false
  /-- No two of these codes are equal, trimmed and in capitals. -/
  distinct : p.declaredCodes.Nodup
  /-- Its fields are consistent. -/
  fields : ∀ f ∈ p.fields, f.IsConsistent p.declaredCodes
  /-- Its rules are consistent. -/
  rules : ∀ r ∈ p.rules, r.IsConsistent p.declaredCodes

/-! ### Parts without violations -/

/-- There is no violation at a place exactly when there is no defect. -/
@[simp]
theorem violationsAt_eq_nil_iff {location : String} {defects : List Defect} :
    violationsAt location defects = [] ↔ defects = [] := by
  rw [violationsAt, List.map_eq_nil_iff]

/-- A text without path defect is a path. -/
theorem pathDefect?_eq_none_iff {path : String} : pathDefect? path = none ↔ IsReadable path := by
  rw [pathDefect?, IsReadable]
  cases FieldPath.ofText path <;> simp

/-- A text without pattern defect is a pattern. -/
theorem patternDefect?_eq_none_iff {text : String} :
    patternDefect? text = none ↔ Compiles text := by
  rw [patternDefect?, Compiles]
  cases Pattern.ofText? text <;> simp

/-- An optional text without pattern defect is a pattern, if there is one. -/
theorem bind_patternDefect?_eq_none_iff {text? : Option String} :
    text?.bind patternDefect? = none ↔ ∀ text, text? = some text → Compiles text := by
  cases text? <;> simp [patternDefect?_eq_none_iff]

/-- A leaf without defects has a path, and a pattern if it matches against a text. -/
theorem ConditionLeaf.defects_eq_nil_iff {l : ConditionLeaf} :
    l.defects = [] ↔
      IsReadable l.field ∧ ∀ pattern, l.pattern? = some pattern → Compiles pattern := by
  rw [defects, List.append_eq_nil_iff, Option.toList_eq_nil_iff, Option.toList_eq_nil_iff,
    pathDefect?_eq_none_iff, bind_patternDefect?_eq_none_iff]

/-- An optional condition without violations has sound leaves. -/
theorem conditionViolations_eq_nil_iff {location : String} {condition : Option Condition} :
    conditionViolations location condition = [] ↔
      ∀ c, condition = some c → c.HasSoundLeaves := by
  cases condition <;>
    simp [conditionViolations, Condition.defects, Condition.HasSoundLeaves,
      ConditionLeaf.defects_eq_nil_iff]

/-- A scope has no defect when each of its codes is declared. -/
theorem scopeDefects_eq_nil_iff {declared : List String} {scope : Option (List String)} :
    scopeDefects declared scope = [] ↔ IsScopeOf declared scope := by
  cases scope <;> simp [scopeDefects, scopeDefect?, IsScopeOf]

/-- A text that must not be blank has no defect if it is not. -/
theorem blankDefect?_eq_none_iff {text : String} {defect : Defect} :
    blankDefect? defect text = none ↔ Text.isBlank text = false := by
  rw [blankDefect?]
  cases Text.isBlank text <;> simp

/-! ### Report types -/

/-- A report type has no defect when its code, normalised, is not blank and differs from those
before. -/
theorem ReportType.defect?_eq_none_iff {before : List String} {t : ReportType} :
    t.defect? before = none ↔
      Text.normalizeCode t.code ≠ "" ∧ Text.normalizeCode t.code ∉ before := by
  rw [defect?]
  by_cases hblank : Text.normalizeCode t.code = ""
  · simp [hblank]
  · by_cases hseen : Text.normalizeCode t.code ∈ before <;> simp [hblank, hseen]

/-- Report types have no violation when their codes, normalised, are not blank and differ from
each other and from those before. -/
theorem reportTypeViolations_eq_nil_iff {index : Nat} {before : List String}
    {ts : List ReportType} :
    reportTypeViolations index before ts = [] ↔
      (∀ t ∈ ts, Text.normalizeCode t.code ≠ "") ∧
      (ts.map fun t => Text.normalizeCode t.code).Nodup ∧
      ∀ t ∈ ts, Text.normalizeCode t.code ∉ before := by
  induction ts generalizing index before with
  | nil => simp [reportTypeViolations]
  | cons t ts ih =>
    rw [reportTypeViolations, List.append_eq_nil_iff, violationsAt_eq_nil_iff,
      Option.toList_eq_nil_iff, ReportType.defect?_eq_none_iff, ih, List.map_cons,
      List.nodup_cons, List.forall_mem_cons, List.forall_mem_cons]
    constructor
    · rintro ⟨⟨hcode, hnew⟩, hcodes, hnodup, hothers⟩
      refine ⟨⟨hcode, hcodes⟩, ⟨fun hagain => ?_, hnodup⟩, hnew, fun u hu hbefore => ?_⟩
      · obtain ⟨u, hu, hsame⟩ := List.mem_map.1 hagain
        exact hothers u hu (List.mem_append_right _ (List.mem_singleton.2 hsame))
      · exact hothers u hu (List.mem_append_left _ hbefore)
    · rintro ⟨⟨hcode, hcodes⟩, ⟨hdiffer, hnodup⟩, hnew, hothers⟩
      refine ⟨⟨hcode, hnew⟩, hcodes, hnodup, fun u hu hmem => ?_⟩
      rcases List.mem_append.1 hmem with hbefore | hsame
      · exact hothers u hu hbefore
      · exact hdiffer (List.mem_map.2 ⟨u, hu, List.mem_singleton.1 hsame⟩)

/-! ### Fields and rules -/

/-- The lengths of a field have no defect if they leave room for a text. -/
theorem Field.lengthDefect?_eq_none_iff {f : Field} :
    f.lengthDefect? = none ↔
      ∀ least most, f.minLength = some least → f.maxLength = some most → least ≤ most := by
  rw [lengthDefect?]
  cases f.minLength <;> cases f.maxLength <;> simp

/-- A field has no violation exactly if it is consistent. -/
theorem Field.violations_eq_nil_iff {f : Field} {declared : List String} {index : Nat} :
    f.violations declared index = [] ↔ f.IsConsistent declared := by
  simp only [violations, List.flatten_cons, List.flatten_nil, List.append_nil,
    List.append_eq_nil_iff, violationsAt_eq_nil_iff, Option.toList_eq_nil_iff,
    blankDefect?_eq_none_iff, pathDefect?_eq_none_iff, bind_patternDefect?_eq_none_iff,
    lengthDefect?_eq_none_iff, scopeDefects_eq_nil_iff, conditionViolations_eq_nil_iff]
  constructor
  · rintro ⟨hid, hpath, hpattern, hlengths, hscope, hcondition⟩
    exact ⟨hid, hpath, hpattern, hlengths, hscope, hcondition⟩
  · rintro ⟨hid, hpath, hpattern, hlengths, hscope, hcondition⟩
    exact ⟨hid, hpath, hpattern, hlengths, hscope, hcondition⟩

/-- A rule has no violation exactly if it is consistent. -/
theorem Rule.violations_eq_nil_iff {r : Rule} {declared : List String} {index : Nat} :
    r.violations declared index = [] ↔ r.IsConsistent declared := by
  simp only [violations, List.flatten_cons, List.flatten_nil, List.append_nil,
    List.append_eq_nil_iff, violationsAt_eq_nil_iff, Option.toList_eq_nil_iff,
    blankDefect?_eq_none_iff, scopeDefects_eq_nil_iff, List.filterMap_eq_nil_iff,
    pathDefect?_eq_none_iff, conditionViolations_eq_nil_iff]
  constructor
  · rintro ⟨hid, hscope, hfields, hassertion, hprecondition⟩
    exact ⟨hid, hscope, hfields, hassertion, hprecondition⟩
  · rintro ⟨hid, hscope, hfields, hassertion, hprecondition⟩
    exact ⟨hid, hscope, hfields, hassertion, hprecondition⟩

/-! ### Packages -/

/-- The members of a list, each with its index, have no violation if none of them has. -/
theorem flatMap_zipIdx_eq_nil_iff {α β : Type} (xs : List α) {f : α → Nat → List β}
    {fits : α → Prop} (h : ∀ x i, f x i = [] ↔ fits x) :
    (xs.zipIdx.flatMap fun entry => f entry.1 entry.2) = [] ↔ ∀ x ∈ xs, fits x := by
  rw [List.flatMap_eq_nil_iff]
  constructor
  · intro hall x hx
    obtain ⟨i, hi⟩ := List.mem_iff_getElem?.1 hx
    exact (h x i).1 (hall (x, i) (List.mk_mem_zipIdx_iff_getElem?.2 hi))
  · rintro hall ⟨x, i⟩ hmem
    exact (h x i).2 (hall x (List.mem_of_getElem? (List.mk_mem_zipIdx_iff_getElem?.1 hmem)))

/-- A package has no violation exactly if it is consistent. -/
theorem Package.violations_eq_nil_iff {p : Package} : p.violations = [] ↔ p.IsConsistent := by
  have htypes : (if p.reportTypes.isEmpty then some Defect.noReportTypes else none) = none ↔
      p.reportTypes ≠ [] := by
    cases p.reportTypes <;> simp
  have hcodes : (p.reportTypes.map fun t => Text.normalizeCode t.code) = p.declaredCodes := by
    rw [declaredCodes, reportTypeCodes, List.map_map]
    rfl
  have hfields := flatMap_zipIdx_eq_nil_iff p.fields
    (f := fun (f : Field) i => f.violations p.declaredCodes i)
    fun _ _ => Field.violations_eq_nil_iff
  have hrules := flatMap_zipIdx_eq_nil_iff p.rules
    (f := fun (r : Rule) i => r.violations p.declaredCodes i)
    fun _ _ => Rule.violations_eq_nil_iff
  simp only [violations, List.flatten_cons, List.flatten_nil, List.append_nil,
    List.append_eq_nil_iff, violationsAt_eq_nil_iff, Option.toList_eq_nil_iff,
    blankDefect?_eq_none_iff, htypes, reportTypeViolations_eq_nil_iff, ne_eq,
    Text.normalizeCode_eq_empty_iff, Bool.not_eq_true, hcodes, hfields, hrules,
    List.not_mem_nil, not_false_eq_true, implies_true, and_true]
  constructor
  · rintro ⟨hid, hcode, hsome, ⟨hblank, hdistinct⟩, hfields, hrules⟩
    exact ⟨hid, hcode, hsome, hblank, hdistinct, hfields, hrules⟩
  · rintro ⟨hid, hcode, hsome, hblank, hdistinct, hfields, hrules⟩
    exact ⟨hid, hcode, hsome, ⟨hblank, hdistinct⟩, hfields, hrules⟩

/-- A package is accepted exactly if it is consistent. -/
theorem Package.verify_eq_ok_iff_isConsistent {p : Package} :
    p.verify = .ok () ↔ p.IsConsistent :=
  (verify_eq_ok_iff p).trans violations_eq_nil_iff

end RegulatoryReporting
