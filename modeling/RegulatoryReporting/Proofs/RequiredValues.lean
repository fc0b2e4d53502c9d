import RegulatoryReporting.Package.Verification
import RegulatoryReporting.Proofs.FieldFindings
import RegulatoryReporting.Proofs.RuleFindings

/-!
# Required Values

Whether the value of a field is there is decided at three places: when the field itself is
checked, when a rule names it among the values that it requires, and when a condition tests
it for absence. All three mean the same by absent. But a field and a condition read the path
of the field, while a rule has the id of the field only and reads the path of the first field
of this id, whatever the report types of that field. An accepted package may use an id more
than once, so a rule may look at the place of a field that does not belong to the report type
(`Package.prices`).

## Main results

* `Evaluator.evaluate_fieldNotExists` — a condition tests for the same absence.
* `Rule.passed_requiredFinding_affectedValues` — when a rule that requires values passes.
* `Engine.required_reads_first` — the three readers of one field.
-/

namespace RegulatoryReporting

/-! ### Absence -/

/-- A place is absent for a rule exactly if it is absent. -/
theorem Content.ofPlace_eq_absent_iff {place : Option Json} :
    Content.ofPlace place = .absent ↔ Json.isAbsent place = true := by
  cases place with
  | none => simp [ofPlace, Json.isAbsent]
  | some v =>
    rw [ofPlace]
    cases habsent : Json.isAbsent (some v) with
    | true => simp
    | false => cases v.scalarText? <;> simp

/-- A test for absence holds where a place is absent. It has depth one, so it is never nested
too deeply. -/
theorem Evaluator.evaluate_fieldNotExists (e : Evaluator) (path : String) (record : Json) :
    e.evaluate (.fieldNotExists path) record = Json.isAbsent (resolve record path) := by
  have hlimit : ¬ e.maxDepth < 1 := Nat.not_lt.2 e.one_le
  have hholds : e.evaluate? (.fieldNotExists path) record =
      .ok (presentValue? record path).isNone := by
    rw [evaluate?, Condition.fieldNotExists, evaluateAt, if_neg hlimit]
    rfl
  rw [evaluate, hholds]
  simp only [← Option.not_isSome, isSome_presentValue?, Bool.not_not]

/-! ### Rules that require values -/

/-- A rule that requires values passes when none of them is absent. -/
theorem Rule.passed_requiredFinding (r : Rule) (values : List AffectedValue) :
    (r.requiredFinding values).passed = !values.any fun v => v.content == .absent := by
  rw [requiredFinding]
  cases hmissing : values.filter fun v => v.content == .absent with
  | nil =>
    rw [List.filter_eq_nil_iff] at hmissing
    simpa [finding] using hmissing
  | cons first rest =>
    have hfirst : first ∈ values.filter fun v => v.content == .absent :=
      hmissing ▸ List.mem_cons_self
    rw [List.mem_filter] at hfirst
    have hany : (values.any fun v => v.content == .absent) = true :=
      List.any_eq_true.2 ⟨first, hfirst⟩
    rw [hany]
    rfl

/-- A rule that requires values passes when there is something at the places of all of its
affected fields. -/
theorem Rule.passed_requiredFinding_affectedValues (p : Package) (r : Rule) (record : Json) :
    (r.requiredFinding (p.affectedValues r record)).passed =
      !r.affectedFields.any fun field =>
        Json.isAbsent (resolve record (p.affectedPath field)) := by
  have habsent : ∀ place, (Content.ofPlace place == .absent) = Json.isAbsent place := by
    intro place
    rw [Bool.eq_iff_iff, beq_iff_eq, Content.ofPlace_eq_absent_iff]
  rw [passed_requiredFinding, Package.affectedValues, List.any_map]
  simp only [Function.comp_def, habsent]

/-- Such a rule, once triggered, is settled by the record alone. -/
theorem Engine.judge_of_required {e : Engine} {p : Package} {r : Rule} {record : Json}
    (htype : r.type = .required) (htriggers : e.triggers r record = true) :
    e.judge p r record = .settled (r.requiredFinding (p.affectedValues r record)) := by
  rw [judge, if_pos htriggers, judgeTriggered, htype]

/-! ### The readers of a field -/

/-- Some field is the first of its id. -/
theorem Package.exists_field?_of_mem {p : Package} {f : Field} (hf : f ∈ p.fields) :
    ∃ first ∈ p.fields, first.id = f.id ∧ p.field? f.id = some first := by
  have hsome : (p.field? f.id).isSome = true :=
    List.find?_isSome.2 ⟨f, hf, beq_self_eq_true _⟩
  obtain ⟨first, hfirst⟩ := Option.isSome_iff_exists.1 hsome
  have hid := List.find?_some hfirst
  exact ⟨first, List.mem_of_find?_eq_some hfirst, beq_iff_eq.1 hid, hfirst⟩

/-- The findings of the rules in scope that are triggered and require the value of one id
only: each has passed or failed as the value is there or not. -/
def Engine.RequiresBy (e : Engine) (p : Package) (reportType : String) (record : Json)
    (batch : Option (String × Batch)) (id : String) (absent : Bool) : Prop :=
  List.Forall₂
    (fun (r : Rule) (g : Finding) => r.type = .required → r.affectedFields = [id] →
      e.triggers r record = true → g.code = .rule ∧ g.severity = r.severity ∧ g.passed = !absent)
    (p.rulesFor reportType) (e.ruleFindingsOf p reportType record batch)

/-- The finding of a rule that requires the value of one id follows the first field of this
id, alone and in a batch. -/
theorem Engine.requiresBy_of_field? {e : Engine} {p : Package} {record : Json} {id : String}
    {first : Field} (hfirst : p.field? id = some first) (reportType : String)
    (batch : Option (String × Batch)) :
    e.RequiresBy p reportType record batch id (first.isAbsent record) := by
  have hpath : p.affectedPath id = first.lookupPath := by
    rw [Package.affectedPath, hfirst]
  have hfinding : ∀ r : Rule, r.affectedFields = [id] →
      (r.requiredFinding (p.affectedValues r record)).passed = !first.isAbsent record := by
    intro r hfields
    rw [Rule.passed_requiredFinding_affectedValues, hfields, List.any_cons, List.any_nil,
      Bool.or_false, hpath, Field.isAbsent]
  have hexecuted : ∀ (r : Rule) (values : List AffectedValue),
      (r.requiredFinding values).code = .rule ∧
        (r.requiredFinding values).severity = r.severity := by
    intro r values
    rw [Rule.requiredFinding]
    split <;> exact ⟨rfl, rfl⟩
  -- The rule asks no keys of the batch, so its finding is the same alone and in a batch.
  refine forall₂_ruleFindingsOf_of_settle ?_ ?_ reportType batch
  · intro r htype hfields htriggers
    rw [judge_of_required htype htriggers]
    exact ⟨(hexecuted r _).1, (hexecuted r _).2, hfinding r hfields⟩
  · intro r label b htype hfields htriggers
    rw [judge_of_required htype htriggers]
    exact ⟨(hexecuted r _).1, (hexecuted r _).2, hfinding r hfields⟩

/-- The readers of a field in scope, for every package, accepted or not, and every limit on
nesting.

* A test for absence at the path of the field holds exactly if its value is absent.
* If the field is mandatory, it is reported as missing exactly if its value is absent.
* A rule in scope that is triggered and requires the value of its id alone fails exactly if
  the value of the first field of this id is absent, be that field in scope or not.
* So if all fields of this id have one path, such a rule fails exactly if the value of the
  field itself is absent. -/
theorem Engine.required_reads_first (e : Engine) (p : Package) (reportType : String)
    (record : Json) (batch : Option (String × Batch)) {f : Field} (hf : f ∈ p.fields)
    (hscope : f.appliesTo reportType = true) :
    (∀ limit : Evaluator,
      limit.evaluate (.fieldNotExists f.lookupPath) record = f.isAbsent record) ∧
    (f.requirement = .mandatory →
      ((∃ g ∈ f.findings e.evaluator reportType record, g.code = .mandatoryMissing) ↔
        f.isAbsent record = true)) ∧
    (∃ first ∈ p.fields, p.field? f.id = some first ∧
      e.RequiresBy p reportType record batch f.id (first.isAbsent record)) ∧
    ((∀ other ∈ p.fields, other.id = f.id → other.lookupPath = f.lookupPath) →
      e.RequiresBy p reportType record batch f.id (f.isAbsent record)) := by
  obtain ⟨first, hmem, hid, hfirst⟩ := Package.exists_field?_of_mem hf
  have hrequires : e.RequiresBy p reportType record batch f.id (first.isAbsent record) :=
    requiresBy_of_field? hfirst reportType batch
  refine ⟨fun limit => limit.evaluate_fieldNotExists _ _, fun hmandatory => ?_,
    ⟨first, hmem, hfirst, hrequires⟩, fun hpaths => ?_⟩
  · have hcount := f.countP_mandatoryMissing e.evaluator reportType record
    rw [hscope, hmandatory] at hcount
    have hreported : (∃ g ∈ f.findings e.evaluator reportType record,
        g.code = .mandatoryMissing) ↔
          0 < (f.findings e.evaluator reportType record).countP (·.code == .mandatoryMissing) := by
      simp only [List.countP_pos_iff, beq_iff_eq]
    rw [hreported, hcount]
    cases f.isAbsent record <;> simp
  · have hsame : first.isAbsent record = f.isAbsent record := by
      rw [Field.isAbsent, Field.isAbsent, hpaths first hmem hid]
    rwa [← hsame]

/-- A package that calls two prices by one id: that of a position and that of a trade. A rule
requires the price. -/
def Package.prices : Package where
  id := "PRICES"
  regulationCode := "EMIR"
  version := "1"
  reportTypes := [{ code := "POSITION" }, { code := "TRADE" }]
  fields := [
    { id := "price", requirement := .mandatory, recordPath := some "position.price"
      reportTypes := some ["POSITION"] },
    { id := "price", requirement := .mandatory, recordPath := some "trade.price"
      reportTypes := some ["TRADE"] }]
  rules := [{ id := "R1", severity := .error, type := .required, affectedFields := ["price"] }]

/-- A record with the price of a position. -/
def Package.positionRecord : Json :=
  .obj [("position", .obj [("price", .str "1")])]

/-- Asked for a position, the rule passes: its id leads to the field of positions. -/
theorem Package.positionRecord_requires :
    (∃ f ∈ prices.fields, f.appliesTo "POSITION" = true ∧ f.isAbsent positionRecord = false) ∧
    (∃ first ∈ prices.fields, prices.field? "price" = some first ∧
      (default : Engine).RequiresBy prices "POSITION" positionRecord none "price"
        (first.isAbsent positionRecord)) := by
  have hscope : (prices.fields.head (by decide)).appliesTo "POSITION" = true := by decide
  obtain ⟨-, -, hrule, -⟩ := Engine.required_reads_first default prices "POSITION"
    positionRecord none List.mem_cons_self hscope
  exact ⟨⟨_, List.mem_cons_self, hscope, by decide +kernel⟩, hrule⟩

/-- Asked for a trade, the same rule passes although the package is accepted, the mandatory
price of the trade is missing, and no other field in scope has its id. -/
theorem Package.tradePrice_overlooked :
    prices.verify = .ok () ∧
    (∃ f ∈ prices.fields, f.appliesTo "TRADE" = true ∧ f.id = "price" ∧
      (∀ other ∈ prices.fields, other.appliesTo "TRADE" = true → other.id = f.id → other = f) ∧
      f.isAbsent positionRecord = true ∧
      (∃ g ∈ f.findings (default : Engine).evaluator "TRADE" positionRecord,
        g.code = .mandatoryMissing)) ∧
    ∃ r g, (r, g) ∈ (prices.rulesFor "TRADE").zip
        ((default : Engine).ruleFindingsOf prices "TRADE" positionRecord none) ∧
      r.type = .required ∧ r.affectedFields = ["price"] ∧
      (default : Engine).triggers r positionRecord = true ∧ g.passed = true := by
  refine ⟨by decide +kernel, ?_, ?_⟩
  · refine ⟨_, List.mem_cons_of_mem _ List.mem_cons_self, by decide, rfl, ?_,
      by decide +kernel, by decide +kernel⟩
    intro other hother hscope _
    rcases List.mem_cons.1 hother with rfl | hother
    · exact absurd hscope (by decide)
    · exact List.mem_singleton.1 hother
  · exact ⟨_, _, List.mem_cons_self, rfl, rfl, by decide, by decide +kernel⟩

end RegulatoryReporting
