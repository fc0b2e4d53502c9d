import RegulatoryReporting.Package.Verification
import RegulatoryReporting.Proofs.ConditionWire
import RegulatoryReporting.Proofs.StructureWire

/-!
# The Wire Form of Packages, There and Back

A package can be written in many ways: with short names of requirements and small names of
severities, with structures as arrays, with nulls for what is missing and with members that
mean nothing. Encoding writes it in one of them. This module shows that nothing gets lost on
the way: a package that was decoded, however it was written, is decoded again from its wire
form.

All members but conditions are recovered whatever they hold. A condition is recovered if it is
sound, which those are that were decoded; so a package is sound if its conditions are
(`Package.IsSound`), and the sound packages are those that decoding can give.

## Main results

* `Field.isWireForm_toJson`, `Rule.isWireForm_toJson`, `Package.isWireForm_toJson` — what is
  sound is recovered from its wire form.
* `Package.isSound_of_decoder` — what is decoded is sound.
* `Package.wire_round_trip` — a package that was decoded is decoded again from its wire form.
-/

namespace RegulatoryReporting

open Decoder

variable {m : Medium} {d : Document}

/-! ### Conditions -/

/-- A sound condition is written in its wire form. -/
theorem Condition.isWireForm_optional {c : Condition} (hc : c.IsSound) :
    IsWireForm (Decoder.optional Condition.decoder) c.toJson (some c) :=
  IsWireForm.optional
    ⟨isCanonical_toJson c hc.canonical, fun _ => decode_toJson hc.wellFormed hc.canonical⟩
    (toJson_ne_null c)

/-- A condition that is there was decoded, so it is sound. -/
theorem Condition.isSound_of_optional {c : Condition}
    (h : Decoder.optional Condition.decoder m d = .ok (some c)) : c.IsSound :=
  isSound_of_decode d (optional_eq_ok_some_iff.1 h).2

/-! ### Report types -/

namespace ReportType

/-- The draft of a report type that is read from its wire form. -/
def draft (t : ReportType) : Draft where
  code := some t.code
  name := some t.name
  description := t.description.map some

/-- The draft of a report type makes the report type. -/
theorem finish_draft (t : ReportType) : t.draft.finish = .ok t := by
  simp only [Draft.finish, draft, require, join_map_some]
  rfl

/-- A report type is recovered from its wire form. -/
theorem isWireForm_toJson (t : ReportType) : IsWireForm decoder t.toJson t := by
  have hkeys : ["code", "description", "name"].Pairwise (· < ·) := by decide
  refine isWireForm_structured hkeys ?_ t.finish_draft
  simp only [Json.optionalText, List.cons_append, List.nil_append]
  refine takesTo_cons rfl rfl (isWireForm_string _) ?_
  refine takesTo_optionalMember (fun s a => { s with description := a }) rfl rfl rfl
    (fun a _ => isWireForm_optional_string a) ?_
  refine takesTo_cons rfl rfl (isWireForm_string _) ?_
  exact takesTo_nil

end ReportType

/-! ### Fields -/

namespace Field

/-- A requirement is read under its full name. -/
theorem isWireForm_requirement (r : Requirement) :
    IsWireForm (Decoder.name Requirement.wireNames) (.str r.name) r :=
  isWireForm_name (by cases r <;> rfl)

/-- A field whose condition, if there is one, is sound. -/
def IsSound (f : Field) : Prop := ∀ c, f.condition = some c → c.IsSound

/-- The draft of a field that is read from its wire form. -/
def draft (f : Field) : Draft where
  id := some f.id
  name := some f.name
  description := f.description.map some
  category := f.category.map some
  dataType := f.dataType.map some
  requirement := some f.requirement
  conditionText := f.conditionText.map some
  condition := f.condition.map some
  recordPath := f.recordPath.map some
  pattern := f.pattern.map some
  maxLength := f.maxLength.map some
  minLength := f.minLength.map some
  allowedValues := f.allowedValues.map some
  reportTypes := f.reportTypes.map some

/-- The draft of a field makes the field. -/
theorem finish_draft (f : Field) : f.draft.finish = .ok f := by
  simp only [Draft.finish, draft, require, join_map_some]
  rfl

/-- A sound field is recovered from its wire form. -/
theorem isWireForm_toJson {f : Field} (hf : f.IsSound) : IsWireForm decoder f.toJson f := by
  have hkeys : ["category", "cdm_path", "condition", "condition_expr", "data_type",
      "description", "enum_values", "field_id", "max_length", "min_length", "name", "pattern",
      "report_types", "requirement"].Pairwise (· < ·) := by decide
  refine isWireForm_structured hkeys ?_ f.finish_draft
  -- The members one by one; each sets its place of the draft, or leaves it as empty as it was.
  simp only [Json.optionalText, Json.optionalTexts, Json.optionalCount, List.append_assoc,
    List.cons_append, List.nil_append]
  refine takesTo_optionalMember (fun s a => { s with category := a }) rfl rfl rfl
    (fun a _ => isWireForm_optional_string a) ?_
  refine takesTo_optionalMember (fun s a => { s with recordPath := a }) rfl rfl rfl
    (fun a _ => isWireForm_optional_string a) ?_
  refine takesTo_optionalMember (fun s a => { s with conditionText := a }) rfl rfl rfl
    (fun a _ => isWireForm_optional_string a) ?_
  refine takesTo_optionalMember (fun s a => { s with condition := a }) rfl rfl rfl
    (fun c hc => Condition.isWireForm_optional (hf c hc)) ?_
  refine takesTo_optionalMember (fun s a => { s with dataType := a }) rfl rfl rfl
    (fun a _ => isWireForm_optional_string a) ?_
  refine takesTo_optionalMember (fun s a => { s with description := a }) rfl rfl rfl
    (fun a _ => isWireForm_optional_string a) ?_
  refine takesTo_optionalMember (fun s a => { s with allowedValues := a }) rfl rfl rfl
    (fun a _ => isWireForm_optional_strings a) ?_
  refine takesTo_cons rfl rfl (isWireForm_string _) ?_
  refine takesTo_optionalMember (fun s a => { s with maxLength := a }) rfl rfl rfl
    (fun a _ => isWireForm_optional_count a) ?_
  refine takesTo_optionalMember (fun s a => { s with minLength := a }) rfl rfl rfl
    (fun a _ => isWireForm_optional_count a) ?_
  refine takesTo_cons rfl rfl (isWireForm_string _) ?_
  refine takesTo_optionalMember (fun s a => { s with pattern := a }) rfl rfl rfl
    (fun a _ => isWireForm_optional_string a) ?_
  refine takesTo_optionalMember (fun s a => { s with reportTypes := a }) rfl rfl rfl
    (fun a _ => isWireForm_optional_strings a) ?_
  refine takesTo_cons rfl rfl (isWireForm_requirement _) ?_
  exact takesTo_nil

/-- A condition that stands in a draft is sound. -/
def Draft.IsSound (s : Draft) : Prop := ∀ c, s.condition = some (some c) → c.IsSound

/-- No condition stands in the empty draft. -/
theorem isSound_empty : ({} : Draft).IsSound := fun _ h => by cases h

/-- Every slot of a field keeps drafts sound; only one concerns the condition. -/
theorem keeps_slots : ∀ slot ∈ slots, slot.Keeps m Draft.IsSound := by
  intro slot hslot
  simp only [slots, List.mem_cons, List.not_mem_nil, or_false] at hslot
  rcases hslot with rfl | rfl | rfl | rfl | rfl | rfl | rfl | rfl | rfl | rfl | rfl | rfl | rfl |
    rfl
  -- Where another place is set, the condition is the one that stood there.
  all_goals try exact keeps_slot fun _ _ _ _ hs => hs
  refine keeps_slot fun d a s ha _ c hc => ?_
  obtain rfl := Option.some.inj hc
  exact Condition.isSound_of_optional ha

/-- A field that is decoded is sound. -/
theorem isSound_of_decoder {f : Field} (h : decoder m d = .ok f) : f.IsSound := by
  obtain ⟨s, hs, hfinish⟩ := exists_draft_of_structured keeps_slots isSound_empty h
  obtain ⟨id, _, hfinish⟩ := Except.bind_eq_ok_iff.1 hfinish
  obtain ⟨requirement, _, hfinish⟩ := Except.bind_eq_ok_iff.1 hfinish
  obtain rfl := Except.ok.inj hfinish
  exact fun c hc => hs c (Option.join_eq_some_iff.1 hc)

end Field

/-! ### Rules -/

namespace Rule

/-- A severity is read under its label. -/
theorem isWireForm_severity (severity : Severity) :
    IsWireForm (Decoder.name Severity.wireNames) (.str severity.label) severity :=
  isWireForm_name (by cases severity <;> rfl)

/-- A type of rules is read under its name. -/
theorem isWireForm_type (type : RuleType) :
    IsWireForm (Decoder.name RuleType.wireNames) (.str type.name) type :=
  isWireForm_name (by cases type <;> rfl)

/-- A rule whose conditions, as far as there are any, are sound. -/
structure IsSound (r : Rule) : Prop where
  assertion : ∀ c, r.assertion = some c → c.IsSound
  precondition : ∀ c, r.precondition = some c → c.IsSound

/-- The draft of a rule that is read from its wire form. -/
def draft (r : Rule) : Draft where
  id := some r.id
  name := some r.name
  description := r.description.map some
  severity := some r.severity
  type := some r.type
  expression := some r.expression
  affectedFields := some r.affectedFields
  assertion := r.assertion.map some
  precondition := r.precondition.map some
  reportTypes := r.reportTypes.map some

/-- The draft of a rule makes the rule. -/
theorem finish_draft (r : Rule) : r.draft.finish = .ok r := by
  simp only [Draft.finish, draft, require, join_map_some]
  rfl

/-- A sound rule is recovered from its wire form. -/
theorem isWireForm_toJson {r : Rule} (hr : r.IsSound) : IsWireForm decoder r.toJson r := by
  have hkeys : ["affected_fields", "applies_when", "condition_expr", "description", "expression",
      "name", "report_types", "rule_id", "rule_type", "severity"].Pairwise (· < ·) := by decide
  refine isWireForm_structured hkeys ?_ r.finish_draft
  simp only [Json.optionalText, Json.optionalTexts, List.append_assoc, List.cons_append,
    List.nil_append]
  refine takesTo_cons rfl rfl (isWireForm_strings _) ?_
  refine takesTo_optionalMember (fun s a => { s with precondition := a }) rfl rfl rfl
    (fun c hc => Condition.isWireForm_optional (hr.precondition c hc)) ?_
  refine takesTo_optionalMember (fun s a => { s with assertion := a }) rfl rfl rfl
    (fun c hc => Condition.isWireForm_optional (hr.assertion c hc)) ?_
  refine takesTo_optionalMember (fun s a => { s with description := a }) rfl rfl rfl
    (fun a _ => isWireForm_optional_string a) ?_
  refine takesTo_cons rfl rfl (isWireForm_string _) ?_
  refine takesTo_cons rfl rfl (isWireForm_string _) ?_
  refine takesTo_optionalMember (fun s a => { s with reportTypes := a }) rfl rfl rfl
    (fun a _ => isWireForm_optional_strings a) ?_
  refine takesTo_cons rfl rfl (isWireForm_string _) ?_
  refine takesTo_cons rfl rfl (isWireForm_type _) ?_
  refine takesTo_cons rfl rfl (isWireForm_severity _) ?_
  exact takesTo_nil

/-- The conditions that stand in a draft are sound. -/
structure Draft.IsSound (s : Draft) : Prop where
  assertion : ∀ c, s.assertion = some (some c) → c.IsSound
  precondition : ∀ c, s.precondition = some (some c) → c.IsSound

/-- No conditions stand in the empty draft. -/
theorem isSound_empty : ({} : Draft).IsSound where
  assertion _ h := by cases h
  precondition _ h := by cases h

/-- Every slot of a rule keeps drafts sound; two concern conditions. -/
theorem keeps_slots : ∀ slot ∈ slots, slot.Keeps m Draft.IsSound := by
  intro slot hslot
  simp only [slots, List.mem_cons, List.not_mem_nil, or_false] at hslot
  rcases hslot with rfl | rfl | rfl | rfl | rfl | rfl | rfl | rfl | rfl | rfl
  all_goals try exact keeps_slot fun _ _ _ _ hs => ⟨hs.assertion, hs.precondition⟩
  · refine keeps_slot fun d a s ha hs => ⟨fun c hc => ?_, hs.precondition⟩
    obtain rfl := Option.some.inj hc
    exact Condition.isSound_of_optional ha
  · refine keeps_slot fun d a s ha hs => ⟨hs.assertion, fun c hc => ?_⟩
    obtain rfl := Option.some.inj hc
    exact Condition.isSound_of_optional ha

/-- A rule that is decoded is sound. -/
theorem isSound_of_decoder {r : Rule} (h : decoder m d = .ok r) : r.IsSound := by
  obtain ⟨s, hs, hfinish⟩ := exists_draft_of_structured keeps_slots isSound_empty h
  obtain ⟨id, _, hfinish⟩ := Except.bind_eq_ok_iff.1 hfinish
  obtain ⟨severity, _, hfinish⟩ := Except.bind_eq_ok_iff.1 hfinish
  obtain ⟨type, _, hfinish⟩ := Except.bind_eq_ok_iff.1 hfinish
  obtain rfl := Except.ok.inj hfinish
  exact ⟨fun c hc => hs.assertion c (Option.join_eq_some_iff.1 hc),
    fun c hc => hs.precondition c (Option.join_eq_some_iff.1 hc)⟩

end Rule

/-! ### Packages -/

namespace Package

/-- A package whose conditions are sound. -/
structure IsSound (p : Package) : Prop where
  fields : ∀ f ∈ p.fields, f.IsSound
  rules : ∀ r ∈ p.rules, r.IsSound

/-- The draft of a package that is read from its wire form. -/
def draft (p : Package) : Draft where
  id := some p.id
  regulationCode := some p.regulationCode
  name := some p.name
  jurisdiction := p.jurisdiction.map some
  version := some p.version
  reportTypes := some p.reportTypes
  fields := some p.fields
  rules := some p.rules
  fieldCount := p.fieldCount.map some
  ruleCount := p.ruleCount.map some

/-- The draft of a package makes the package. -/
theorem finish_draft (p : Package) : p.draft.finish = .ok p := by
  simp only [Draft.finish, draft, require, join_map_some]
  rfl

/-- A sound package is recovered from its wire form. -/
theorem isWireForm_toJson {p : Package} (hp : p.IsSound) : IsWireForm decoder p.toJson p := by
  have hkeys : ["field_count", "fields", "jurisdiction", "name", "package_id",
      "regulation_code", "report_types", "validation_rule_count", "validation_rules",
      "version"].Pairwise (· < ·) := by decide
  refine isWireForm_structured hkeys ?_ p.finish_draft
  simp only [Json.optionalText, Json.optionalCount, List.append_assoc, List.cons_append,
    List.nil_append]
  refine takesTo_optionalMember (fun s a => { s with fieldCount := a }) rfl rfl rfl
    (fun a _ => isWireForm_optional_count a) ?_
  refine takesTo_cons rfl rfl
    (isWireForm_list fun f hf => Field.isWireForm_toJson (hp.fields f hf)) ?_
  refine takesTo_optionalMember (fun s a => { s with jurisdiction := a }) rfl rfl rfl
    (fun a _ => isWireForm_optional_string a) ?_
  refine takesTo_cons rfl rfl (isWireForm_string _) ?_
  refine takesTo_cons rfl rfl (isWireForm_string _) ?_
  refine takesTo_cons rfl rfl (isWireForm_string _) ?_
  refine takesTo_cons rfl rfl (isWireForm_list fun t _ => t.isWireForm_toJson) ?_
  refine takesTo_optionalMember (fun s a => { s with ruleCount := a }) rfl rfl rfl
    (fun a _ => isWireForm_optional_count a) ?_
  refine takesTo_cons rfl rfl
    (isWireForm_list fun r hr => Rule.isWireForm_toJson (hp.rules r hr)) ?_
  refine takesTo_cons rfl rfl (isWireForm_string _) ?_
  exact takesTo_nil

/-- The fields and rules that stand in a draft are sound. -/
structure Draft.IsSound (s : Draft) : Prop where
  fields : ∀ fs, s.fields = some fs → ∀ f ∈ fs, f.IsSound
  rules : ∀ rs, s.rules = some rs → ∀ r ∈ rs, r.IsSound

/-- Neither fields nor rules stand in the empty draft. -/
theorem isSound_empty : ({} : Draft).IsSound where
  fields _ h := by cases h
  rules _ h := by cases h

/-- Every slot of a package keeps drafts sound; one concerns fields and one rules. -/
theorem keeps_slots : ∀ slot ∈ slots, slot.Keeps m Draft.IsSound := by
  intro slot hslot
  simp only [slots, List.mem_cons, List.not_mem_nil, or_false] at hslot
  rcases hslot with rfl | rfl | rfl | rfl | rfl | rfl | rfl | rfl | rfl | rfl
  all_goals try exact keeps_slot fun _ _ _ _ hs => ⟨hs.fields, hs.rules⟩
  · refine keeps_slot fun d a s ha hs => ⟨fun fs hfs => ?_, hs.rules⟩
    obtain rfl := Option.some.inj hfs
    exact holds_of_list (fun _ _ => Field.isSound_of_decoder) ha
  · refine keeps_slot fun d a s ha hs => ⟨hs.fields, fun rs hrs => ?_⟩
    obtain rfl := Option.some.inj hrs
    exact holds_of_list (fun _ _ => Rule.isSound_of_decoder) ha

/-- A package that is decoded is sound. -/
theorem isSound_of_decoder {p : Package} (h : decoder m d = .ok p) : p.IsSound := by
  obtain ⟨s, hs, hfinish⟩ := exists_draft_of_structured keeps_slots isSound_empty h
  obtain ⟨id, _, hfinish⟩ := Except.bind_eq_ok_iff.1 hfinish
  obtain ⟨regulationCode, _, hfinish⟩ := Except.bind_eq_ok_iff.1 hfinish
  obtain ⟨version, _, hfinish⟩ := Except.bind_eq_ok_iff.1 hfinish
  obtain ⟨reportTypes, _, hfinish⟩ := Except.bind_eq_ok_iff.1 hfinish
  obtain rfl := Except.ok.inj hfinish
  refine ⟨fun f hf => ?_, fun r hr => ?_⟩
  · cases hfields : s.fields with
    | none => simp [hfields] at hf
    | some fs => exact hs.fields fs hfields f (by simpa [hfields] using hf)
  · cases hrules : s.rules with
    | none => simp [hrules] at hr
    | some rs => exact hs.rules rs hrules r (by simpa [hrules] using hr)

/-- What is decoded, from a tree or a text, is sound; a sound package is recovered from its wire
form; so a package that was decoded from any value is decoded from its own wire form, with the
same verdict, and is written in the same way again. -/
theorem wire_round_trip :
    (∀ m d p, decoder m d = .ok p → p.IsSound) ∧
    (∀ p : Package, p.IsSound →
      p.toJson.IsCanonical ∧ ∀ m, decoder m (.ofValue p.toJson) = .ok p) ∧
    ∀ v p, decoder.ofValue v = .ok p →
      decoder.ofValue p.toJson = .ok p ∧
      (decoder.ofValue p.toJson).map verify = .ok p.verify ∧
      (decoder.ofValue p.toJson).map toJson = .ok p.toJson := by
  refine ⟨fun _ _ _ => isSound_of_decoder, fun p hp => ?_, fun v p h => ?_⟩
  · exact ⟨(isWireForm_toJson hp).canonical, (isWireForm_toJson hp).reads⟩
  · have hback : decoder.ofValue p.toJson = .ok p :=
      (isWireForm_toJson (isSound_of_decoder h)).reads .tree
    rw [hback]
    exact ⟨rfl, rfl, rfl⟩

/-- A package that is written with the short and small names, with an array for a structure,
nulls and a member that means nothing. -/
def carelessForm : Json :=
  .obj [("package_id", .str "CARELESS"), ("regulation_code", .str "EMIR"), ("version", .str "1"),
    ("report_types", .arr [.arr [.str "TRADE"]]), ("jurisdiction", .null),
    ("fields", .arr [.obj [("field_id", .str "ccp"), ("requirement", .str "C"),
      ("colour", .bool true), ("cdm_path", .null), ("enum_values", .arr []),
      ("condition_expr", .obj [("not", .obj [("and", .arr [
        .obj [("field", .str "cleared"), ("operator", .str "not_exists"),
          ("value", .bool true)]])])])]]),
    ("validation_rules", .arr [.obj [("rule_id", .str "R1"), ("rule_type", .str "required"),
      ("severity", .str "warning"), ("affected_fields", .arr [.str "ccp"])]])]

/-- The package of that form. -/
def careless : Package where
  id := "CARELESS"
  regulationCode := "EMIR"
  version := "1"
  reportTypes := [{ code := "TRADE" }]
  fields := [{
    id := "ccp"
    requirement := .conditional
    condition := some (.not (.and [.fieldNotExists "cleared"]))
    allowedValues := some [] }]
  rules := [{ id := "R1", severity := .warning, type := .required, affectedFields := ["ccp"] }]

/-- It is accepted, and is decoded again and accepted from its own wire form. -/
theorem carelessForm_round_trip :
    decoder.ofValue carelessForm = .ok careless ∧ careless.verify = .ok () ∧
    careless.IsSound ∧ careless.toJson.IsCanonical ∧
    decoder.ofValue careless.toJson = .ok careless ∧
    (decoder.ofValue careless.toJson).map verify = .ok (.ok ()) := by
  have hdecode : decoder.ofValue carelessForm = .ok careless := rfl
  have hverify : careless.verify = .ok () := by decide +kernel
  have hsound : careless.IsSound := wire_round_trip.1 _ _ _ hdecode
  obtain ⟨hback, hverdict, _⟩ := wire_round_trip.2.2 _ _ hdecode
  exact ⟨hdecode, hverify, hsound, (wire_round_trip.2.1 _ hsound).1, hback, hverify ▸ hverdict⟩

end Package

end RegulatoryReporting
