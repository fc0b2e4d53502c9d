import RegulatoryReporting.Proofs.ConsistentPackage
import RegulatoryReporting.Proofs.Evaluation
import RegulatoryReporting.Proofs.ReadPaths

/-!
# Verified Packages

Verification runs once, when a package is loaded; paths are parsed and patterns compiled
again whenever a record is validated, and what fails then is passed over in silence. This
module shows that nothing is left to fail: after a package was accepted, every path that
validation reads is a path, every pattern of a field compiles, and evaluating a condition
goes wrong for its depth only.

The two traversals differ. Verification looks at the affected fields of a rule as they are
written, while validation looks them up among the fields of the package first; the path of
a field found this way is verified with the field (`Package.readable_affectedPath`).

## Main results

* `Package.readable_of_mem_readPaths`, `Package.compiles_of_mem_conditions` — what
  acceptance says about paths and about the patterns of conditions.
* `Package.sound_of_verify` — what an accepted package can rely on in every run.
-/

namespace RegulatoryReporting

/-! ### Fields and rules -/

/-- What holds of a field without violations. -/
structure Field.IsVerified (f : Field) : Prop where
  /-- Its value is looked up at a path. -/
  path : IsReadable f.lookupPath
  /-- Its pattern compiles. -/
  pattern : ∀ source, f.pattern = some source → Compiles source
  /-- No leaf of its condition has a defect. -/
  condition : ∀ c, f.condition = some c → ∀ l ∈ c.leaves, l.defects = []

/-- What holds of a rule without violations. -/
structure Rule.IsVerified (r : Rule) : Prop where
  /-- Its affected fields are paths as they are written. -/
  affectedFields : ∀ field ∈ r.affectedFields, IsReadable field
  /-- No leaf of its assertion has a defect. -/
  assertion : ∀ c, r.assertion = some c → ∀ l ∈ c.leaves, l.defects = []
  /-- No leaf of its precondition has a defect. -/
  precondition : ∀ c, r.precondition = some c → ∀ l ∈ c.leaves, l.defects = []

/-- A consistent field is verified. -/
theorem Field.IsConsistent.isVerified {f : Field} {declared : List String}
    (h : f.IsConsistent declared) : f.IsVerified where
  path := h.path
  pattern := h.pattern
  condition := fun c hc l hl => ConditionLeaf.defects_eq_nil_iff.2 (h.condition c hc l hl)

/-- A consistent rule is verified. -/
theorem Rule.IsConsistent.isVerified {r : Rule} {declared : List String}
    (h : r.IsConsistent declared) : r.IsVerified where
  affectedFields := h.affectedFields
  assertion := fun c hc l hl => ConditionLeaf.defects_eq_nil_iff.2 (h.assertion c hc l hl)
  precondition := fun c hc l hl => ConditionLeaf.defects_eq_nil_iff.2 (h.precondition c hc l hl)

/-! ### Accepted packages -/

namespace Package

variable {p : Package} (h : p.verify = .ok ())

include h

/-- Every field of an accepted package is verified. -/
theorem isVerified_field {f : Field} (hf : f ∈ p.fields) : f.IsVerified :=
  ((verify_eq_ok_iff_isConsistent.1 h).fields f hf).isVerified

/-- Every rule of an accepted package is verified. -/
theorem isVerified_rule {r : Rule} (hr : r ∈ p.rules) : r.IsVerified :=
  ((verify_eq_ok_iff_isConsistent.1 h).rules r hr).isVerified

/-- No leaf of a condition of an accepted package has a defect. -/
theorem defects_leaf_eq_nil {c : Condition} {l : ConditionLeaf} (hc : c ∈ p.conditions)
    (hl : l ∈ c.leaves) : l.defects = [] := by
  have hall : ∀ c ∈ p.conditions, ∀ l ∈ c.leaves, l.defects = [] :=
    forall_mem_conditions (fun f hf => (isVerified_field h hf).condition)
      (fun r hr => (isVerified_rule h hr).assertion)
      (fun r hr => (isVerified_rule h hr).precondition)
  exact hall c hc l hl

/-- In an accepted package, every text that a condition matches against is a pattern. -/
theorem compiles_of_mem_conditions {c : Condition} {l : ConditionLeaf} {pattern : String}
    (hc : c ∈ p.conditions) (hl : l ∈ c.leaves) (hpattern : l.pattern? = some pattern) :
    Compiles pattern :=
  (ConditionLeaf.defects_eq_nil_iff.1 (defects_leaf_eq_nil h hc hl)).2 pattern hpattern

/-- In an accepted package, the affected field of a rule is mapped to a path: to that of a
verified field, or to itself. -/
theorem readable_affectedPath {r : Rule} {field : String} (hr : r ∈ p.rules)
    (hfield : field ∈ r.affectedFields) : IsReadable (p.affectedPath field) := by
  rw [affectedPath]
  cases hfound : p.field? field with
  | some f => exact (isVerified_field h (List.mem_of_find?_eq_some hfound)).path
  | none => exact (isVerified_rule h hr).affectedFields field hfield

/-- In an accepted package, every path that validation reads is a path. -/
theorem readable_of_mem_readPaths {path : String} (hpath : path ∈ p.readPaths) :
    IsReadable path := by
  rw [readPaths, List.mem_append, List.mem_append] at hpath
  rcases hpath with (hpath | hpath) | hpath
  · obtain ⟨f, hf, rfl⟩ := List.mem_map.1 hpath
    exact (isVerified_field h hf).path
  · obtain ⟨r, hr, hpath⟩ := List.mem_flatMap.1 hpath
    obtain ⟨field, hfield, rfl⟩ := List.mem_map.1 hpath
    exact readable_affectedPath h hr hfield
  · obtain ⟨c, hc, hpath⟩ := List.mem_flatMap.1 hpath
    obtain ⟨l, hl, rfl⟩ := List.mem_map.1 hpath
    exact (ConditionLeaf.defects_eq_nil_iff.1 (defects_leaf_eq_nil h hc hl)).1

/-- In an accepted package, evaluating a condition goes wrong only when the condition is
nested deeper than the limit. -/
theorem eq_depthExceeded_of_evaluate? {c : Condition} (hc : c ∈ p.conditions) {e : Evaluator}
    {record : Json} {fault : EvaluationError} (hfault : e.evaluate? c record = .error fault) :
    fault = .depthExceeded e.maxDepth ∧ e.maxDepth < c.depth := by
  cases Evaluator.faultFrom_of_evaluate? hfault with
  | tooDeep hdeep => exact ⟨rfl, by omega⟩
  | noPattern hmem htext hno =>
    obtain ⟨pattern, hcompiles⟩ := compiles_of_mem_conditions h hc hmem htext
    rw [hno] at hcompiles
    cases hcompiles

end Package

/-- An accepted package keeps its promises in every run, whatever the record, the report
type, the catalog, the registers and the limit on nesting.

* Every path that is read is a path, and looking it up is resolving that path.
* Nothing else is read: records that answer alike at these paths are judged alike, handlers
  aside.
* No pattern of a field is passed over: a text that does not match it is reported.
* Evaluating a condition fails only for a depth beyond the limit. -/
theorem Package.sound_of_verify {p : Package} (h : p.verify = .ok ()) :
    (∀ path ∈ p.readPaths, ∃ read, FieldPath.ofText path = .ok read ∧
      ∀ record, resolve record path = read.resolve record) ∧
    (∀ (e : Engine) (reportType : String) (record₁ record₂ : Json),
      AnswerAlike p.readPaths record₁ record₂ →
      (∀ r ∈ p.rules, ∀ handler, e.catalog.handler? r.id = some handler →
        handler r record₁ = handler r record₂) →
      e.fieldFindings p reportType record₁ = e.fieldFindings p reportType record₂ ∧
        e.judgeAll p reportType record₁ = e.judgeAll p reportType record₂) ∧
    (∀ f ∈ p.fields, ∀ source, f.pattern = some source →
      ∃ pattern, Pattern.ofText? source = some pattern ∧
        ∀ text, f.patternFinding? text =
          if pattern.isMatch text then none
          else some (f.violation .pattern s!"'{text}' does not match pattern {source}")) ∧
    (∀ c ∈ p.conditions, ∀ (e : Evaluator) (record : Json) (fault : EvaluationError),
      e.evaluate? c record = .error fault →
      fault = .depthExceeded e.maxDepth ∧ e.maxDepth < c.depth) := by
  refine ⟨?_, ?_, ?_, ?_⟩
  · intro path hpath
    obtain ⟨read, hread⟩ := readable_of_mem_readPaths h hpath
    refine ⟨read, hread, fun record => ?_⟩
    rw [resolve, hread]
  · intro e reportType record₁ record₂ halike hhandlers
    exact ⟨Engine.fieldFindings_congr halike e reportType,
      Engine.judgeAll_congr_of_answerAlike halike e reportType hhandlers⟩
  · intro f hf source hsource
    obtain ⟨pattern, hpattern⟩ := (isVerified_field h hf).pattern source hsource
    refine ⟨pattern, hpattern, fun text => ?_⟩
    rw [Field.patternFinding?, Field.patternFindingBy?, hsource, Option.bind_some, hpattern, Option.bind_some]
  · intro c hc e record fault hfault
    exact eq_depthExceeded_of_evaluate? h hc hfault

/-- A package whose only rule names its affected field by id, while that field stands at a
filtered path and obeys a pattern. -/
def Package.swapPackage : Package where
  id := "SWAPS"
  regulationCode := "EMIR"
  version := "1"
  reportTypes := [{ code := "TRADE" }]
  fields := [
    { id := "CCY", requirement := .mandatory
      recordPath := some "legs[side=PAY].currency", pattern := some "^[A-Z][A-Z][A-Z]$" }]
  rules := [
    { id := "R1", severity := .error, type := .required, affectedFields := ["CCY"]
      precondition := some (.not (.leaf ⟨"status", .matches, some (.str "draft|test")⟩)) }]

/-- In the package of swaps, the affected field is looked up at the path of its field, and
the precondition fails only for a limit of one. -/
theorem Package.swapPackage_sound :
    swapPackage.verify = .ok () ∧
      (∃ read, FieldPath.ofText (swapPackage.affectedPath "CCY") = .ok read) ∧
      ∀ (e : Evaluator) (record : Json) (fault : EvaluationError),
        e.evaluate? (.not (.leaf ⟨"status", .matches, some (.str "draft|test")⟩)) record =
          .error fault → fault = .depthExceeded e.maxDepth ∧ e.maxDepth < 2 := by
  have h : swapPackage.verify = .ok () := by decide +kernel
  obtain ⟨hpaths, -, -, hevaluation⟩ := sound_of_verify h
  obtain ⟨read, hread, -⟩ := hpaths (swapPackage.affectedPath "CCY")
    (affectedPath_mem_readPaths List.mem_cons_self List.mem_cons_self)
  refine ⟨h, ⟨read, hread⟩, ?_⟩
  exact hevaluation _ (mem_conditions_of_precondition List.mem_cons_self rfl)

end RegulatoryReporting
