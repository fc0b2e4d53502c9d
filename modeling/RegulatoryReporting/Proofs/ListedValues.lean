import RegulatoryReporting.Proofs.ExecutedRules
import RegulatoryReporting.Proofs.FieldFindings
import RegulatoryReporting.Proofs.RequiredValues

/-!
# Values That Fields List

A field may list the values that it allows. Two types of rule can ask whether the values of
their affected fields are listed: a value list rule without an entry in the catalogue reads
the list of each field, and a format rule may have the validator of listed values as its
entry. The validator accepts exactly the values of the list it is given. But a format rule
gives its validators no list, so this validator refuses every value that is there, listed or
not, and the two rules agree on a record only if no listed value is there or some value is
refused anyway.

## Main results

* `Validator.refuses?_enumValue_eq_none_iff` — the validator tests membership in its list.
* `Rule.passed_formatFinding_enumValue`, `Rule.passed_valueListFinding_declared` — when each of
  the rules passes.
* `Engine.listed_values_overlooked` — both rules on one record.
-/

namespace RegulatoryReporting

/-! ### Lists -/

/-- A text is among allowed values, blanks around them apart. -/
def IsListed (allowed : List String) (text : String) : Prop :=
  ∃ candidate ∈ allowed, Text.trim candidate = Text.trim text

/-- A list has no objection to its own values. -/
theorem notAllowed?_eq_none_iff {allowed : List String} {text : String} :
    notAllowed? allowed text = none ↔ IsListed allowed text := by
  rw [notAllowed?, IsListed]
  simp

/-- The validator of listed values accepts exactly the values of the list it is given. -/
theorem Validator.refuses?_enumValue_eq_none_iff {allowed : List String} {lookup : Option Lookup}
    {text : String} : enumValue.refuses? allowed lookup text = none ↔ IsListed allowed text := by
  rw [refuses?, refusesTrimmed?, notAllowed?_eq_none_iff, IsListed, IsListed, Text.trim_trim]

/-! ### Affected values -/

/-- A text at a place that is not absent. -/
theorem Content.ofPlace_eq_scalar_iff {place : Option Json} {text : String} :
    Content.ofPlace place = .scalar text ↔
      Json.isAbsent place = false ∧ ∃ v, place = some v ∧ v.scalarText? = some text := by
  cases place with
  | none => simp [ofPlace, Json.isAbsent]
  | some v =>
    rw [ofPlace]
    cases habsent : Json.isAbsent (some v) with
    | true => simp
    | false => cases htext : v.scalarText? <;> simp [htext]

/-- A check has no objection to a value that is absent, or to a text that it accepts. -/
theorem AffectedValue.objection?_eq_none_iff {v : AffectedValue} {check : TextCheck} :
    v.objection? check = none ↔
      v.content = .absent ∨ ∃ text, v.content = .scalar text ∧ check text = none := by
  rw [objection?]
  cases v.content <;> simp

/-- What a record holds for an affected field is in the list of the field: a text, number or
truth value whose text is listed. -/
def Package.ListsValue (p : Package) (record : Json) (field : String) : Prop :=
  ∃ f allowed v text, p.field? field = some f ∧ f.allowedValues = some allowed ∧
    resolve record f.lookupPath = some v ∧ v.scalarText? = some text ∧ IsListed allowed text

/-- A record holds nothing for an affected field. -/
def Package.LacksValue (p : Package) (record : Json) (field : String) : Prop :=
  Json.isAbsent (resolve record (p.affectedPath field)) = true

namespace Rule

variable {e : Engine} {p : Package} {r : Rule} {record : Json} {values : List AffectedValue}

/-- A rule that checks values is executed, and passes if no check objects to its value. -/
theorem passed_valueFinding (checks : List (AffectedValue × TextCheck)) :
    (r.valueFinding checks).code = .rule ∧
      ((r.valueFinding checks).passed = true ↔ ∀ c ∈ checks, c.1.objection? c.2 = none) := by
  obtain ⟨-, hcode, -, hpassed⟩ := valueFinding_header (r := r) checks
  refine ⟨hcode, ?_⟩
  rw [hpassed, objections, List.filterMap_eq_nil_iff]
  simp only [Option.map_eq_none_iff]

/-! ### The format rule -/

/-- The validators of a format rule are given no list, so that of listed values accepts no
text. -/
theorem validatorCheck_enumValue_ne_none (reference : Option Lookup) (text : String) :
    validatorCheck [.enumValue] reference text ≠ none := by
  intro hnone
  rw [validatorCheck, List.findSome?_eq_none_iff] at hnone
  have haccepts := hnone .enumValue List.mem_cons_self
  obtain ⟨candidate, hmem, -⟩ := Validator.refuses?_enumValue_eq_none_iff.1 haccepts
  exact List.not_mem_nil hmem

/-- A format rule with the validator of listed values is executed, and passes only if there
are no values. -/
theorem passed_formatFinding_enumValue (hentry : e.catalog.validatorsFor r = [.enumValue])
    (values : List AffectedValue) :
    (formatFinding e r values).code = .rule ∧
      ((formatFinding e r values).passed = true ↔ ∀ v ∈ values, v.content = .absent) := by
  have hfinding : formatFinding e r values =
      r.valueFinding (alike values (validatorCheck [.enumValue] e.reference)) := by
    rw [formatFinding, hentry]
  obtain ⟨hcode, hpassed⟩ :=
    passed_valueFinding (r := r) (alike values (validatorCheck [.enumValue] e.reference))
  rw [hfinding]
  refine ⟨hcode, hpassed.trans ?_⟩
  rw [alike, List.forall_mem_map]
  refine forall₂_congr fun v _ => AffectedValue.objection?_eq_none_iff.trans (or_iff_left ?_)
  rintro ⟨text, -, haccepts⟩
  exact validatorCheck_enumValue_ne_none e.reference text haccepts

/-! ### The value list rule -/

/-- The checks against declared lists are those of the values, each with the list of its
field. -/
theorem forall₂_declaredChecks? {checks : List (AffectedValue × TextCheck)}
    (h : declaredChecks? p values = some checks) :
    List.Forall₂ (fun v c => ∃ f allowed, p.field? v.field = some f ∧
      f.valueList? = some allowed ∧ (v, notAllowed? allowed) = c) values checks := by
  refine (mapM_eq_some_iff.1 h).imp fun v c hc => ?_
  simpa only [Option.bind_eq_bind, Option.bind_eq_some_iff, pure, Option.some.injEq,
    exists_and_left] using hc

/-- What holds of every check against a declared list holds of every value with its list. -/
theorem forall_mem_declaredChecks?_iff {checks : List (AffectedValue × TextCheck)}
    (h : declaredChecks? p values = some checks) {q : AffectedValue × TextCheck → Prop} :
    (∀ c ∈ checks, q c) ↔ ∀ v ∈ values, ∀ f allowed, p.field? v.field = some f →
      f.valueList? = some allowed → q (v, notAllowed? allowed) := by
  have hall := forall₂_declaredChecks? h
  clear h
  induction hall with
  | nil => simp
  | cons hcheck _ ih =>
    obtain ⟨f, allowed, hfield, hlist, rfl⟩ := hcheck
    rw [List.forall_mem_cons, List.forall_mem_cons]
    refine and_congr ⟨fun hq g others hg hothers => ?_, fun hq => hq f allowed hfield hlist⟩ ih
    obtain rfl : f = g := Option.some.inj (hfield.symm.trans hg)
    obtain rfl : allowed = others := Option.some.inj (hlist.symm.trans hothers)
    exact hq

/-- Values whose fields all declare lists can be checked. -/
theorem exists_declaredChecks? (hvalues : values ≠ [])
    (hdeclares : ∀ v ∈ values, p.DeclaresValues v.field) :
    ∃ checks, declaredChecks? p values = some checks ∧ checks ≠ [] := by
  obtain ⟨checks, hchecks⟩ : ∃ checks, declaredChecks? p values = some checks := by
    rw [← Option.ne_none_iff_exists', Ne, declaredChecks?_eq_none_iff]
    rintro ⟨v, hv, hnot⟩
    exact hnot (hdeclares v hv)
  refine ⟨checks, hchecks, ?_⟩
  rintro rfl
  exact hvalues (declaredChecks?_eq_some_nil_iff.1 hchecks)

/-- Without an entry, a value list rule makes the checks against declared lists. -/
theorem valueListFinding_of_declaredChecks? {checks : List (AffectedValue × TextCheck)}
    (hnone : e.catalog.valueList? r.id = none) (hchecks : declaredChecks? p values = some checks)
    (hcons : checks ≠ []) : valueListFinding e p r values = r.valueFinding checks := by
  rw [valueListFinding, hnone, hchecks]
  cases checks with
  | nil => exact absurd rfl hcons
  | cons check checks => rfl

/-- A value list rule without an entry is executed if the fields of its values all declare
lists, and passes if every value that is there is in the list of its field. -/
theorem passed_valueListFinding_declared (hnone : e.catalog.valueList? r.id = none)
    (hvalues : values ≠ []) (hdeclares : ∀ v ∈ values, p.DeclaresValues v.field) :
    (valueListFinding e p r values).code = .rule ∧
      ((valueListFinding e p r values).passed = true ↔
        ∀ v ∈ values, ∀ f allowed, p.field? v.field = some f → f.valueList? = some allowed →
          v.content = .absent ∨ ∃ text, v.content = .scalar text ∧ IsListed allowed text) := by
  obtain ⟨checks, hchecks, hcons⟩ := exists_declaredChecks? hvalues hdeclares
  obtain ⟨hcode, hpassed⟩ := passed_valueFinding (r := r) checks
  rw [valueListFinding_of_declaredChecks? hnone hchecks hcons]
  refine ⟨hcode, hpassed.trans ?_⟩
  rw [forall_mem_declaredChecks?_iff hchecks]
  simp only [AffectedValue.objection?_eq_none_iff, notAllowed?_eq_none_iff]

end Rule

/-! ### Both rules on one record -/

/-- What stands at an affected field whose field declares a list is absent, or a text of this
list, exactly if the record lacks the value or the value is listed. -/
theorem Package.content_listed_iff {p : Package} {record : Json} {field : String}
    (hdeclares : p.DeclaresValues field) :
    (∀ f allowed, p.field? field = some f → f.valueList? = some allowed →
        Content.ofPlace (resolve record (p.affectedPath field)) = .absent ∨
          ∃ text, Content.ofPlace (resolve record (p.affectedPath field)) = .scalar text ∧
            IsListed allowed text) ↔
      p.LacksValue record field ∨ p.ListsValue record field := by
  obtain ⟨f, allowed, hfield, hgiven, hne⟩ := hdeclares
  have hpath : p.affectedPath field = f.lookupPath := by
    rw [affectedPath, hfield]
  have hlist : f.valueList? = some allowed := Field.valueList?_eq_some_iff.2 ⟨hgiven, hne⟩
  rw [LacksValue, ListsValue, hpath]
  simp only [Content.ofPlace_eq_absent_iff, Content.ofPlace_eq_scalar_iff]
  constructor
  · intro hcontent
    rcases hcontent f allowed hfield hlist with habsent | ⟨text, ⟨-, v, hv, htext⟩, hlisted⟩
    · exact .inl habsent
    · exact .inr ⟨f, allowed, v, text, hfield, hgiven, hv, htext, hlisted⟩
  · rintro (habsent | ⟨f', allowed', v, text, hfield', hgiven', hv, htext, hlisted⟩) g others hg
      hothers
    · exact .inl habsent
    · obtain rfl : f' = g := Option.some.inj (hfield'.symm.trans hg)
      obtain ⟨hothers, -⟩ := Field.valueList?_eq_some_iff.1 hothers
      obtain rfl : allowed' = others := Option.some.inj (hgiven'.symm.trans hothers)
      obtain rfl : f = f' := Option.some.inj (hfield.symm.trans hfield')
      cases habsent : Json.isAbsent (resolve record f.lookupPath) with
      | true => exact .inl rfl
      | false => exact .inr ⟨text, ⟨rfl, v, hv, htext⟩, hlisted⟩

namespace Engine

/-- A format rule whose entry in the catalogue is the validator of listed values. -/
structure ValidatesListed (e : Engine) (r : Rule) : Prop where
  type : r.type = .format
  entry : e.catalog.validators.lookup r.id = some [.enumValue]

/-- A value list rule without an entry in the catalogue. -/
structure ReadsLists (e : Engine) (r : Rule) : Prop where
  type : r.type = .enum ∨ r.type = .enumeration
  no_entry : e.catalog.valueList? r.id = none

variable {e : Engine} {p : Package} {r s : Rule} {record : Json}

/-- Once triggered, the format rule is executed and passes exactly if the record lacks all of
its values. -/
theorem ValidatesListed.exists_judge_eq (h : e.ValidatesListed r)
    (htriggers : e.triggers r record = true) :
    ∃ g, e.judge p r record = .settled g ∧ g.code = .rule ∧
      (g.passed = true ↔ ∀ field ∈ r.affectedFields, p.LacksValue record field) := by
  have hentry : e.catalog.validatorsFor r = [.enumValue] := by
    rw [Catalog.validatorsFor, h.entry]
  have hjudge : e.judge p r record =
      .settled (Rule.formatFinding e r (p.affectedValues r record)) := by
    rw [judge, if_pos htriggers, judgeTriggered, h.type]
  obtain ⟨hcode, hpassed⟩ :=
    Rule.passed_formatFinding_enumValue hentry (p.affectedValues r record)
  refine ⟨_, hjudge, hcode, hpassed.trans ?_⟩
  rw [Package.affectedValues, List.forall_mem_map]
  exact forall₂_congr fun field _ => Content.ofPlace_eq_absent_iff

/-- Once triggered, the value list rule is executed if its fields all declare lists, and
passes exactly if the record lacks each of its values or holds a listed one. -/
theorem ReadsLists.exists_judge_eq (h : e.ReadsLists s) (htriggers : e.triggers s record = true)
    (hfields : s.affectedFields ≠ [])
    (hdeclares : ∀ field ∈ s.affectedFields, p.DeclaresValues field) :
    ∃ g, e.judge p s record = .settled g ∧ g.code = .rule ∧
      (g.passed = true ↔
        ∀ field ∈ s.affectedFields, p.LacksValue record field ∨ p.ListsValue record field) := by
  have hjudge : e.judge p s record =
      .settled (Rule.valueListFinding e p s (p.affectedValues s record)) := by
    rw [judge, if_pos htriggers, judgeTriggered]
    rcases h.type with htype | htype <;> rw [htype]
  have hvalues : p.affectedValues s record ≠ [] :=
    mt (p.affectedValues_eq_nil_iff s record).1 hfields
  have hdeclared : ∀ v ∈ p.affectedValues s record, p.DeclaresValues v.field := by
    rw [Package.affectedValues, List.forall_mem_map]
    exact hdeclares
  obtain ⟨hcode, hpassed⟩ :=
    Rule.passed_valueListFinding_declared (r := s) h.no_entry hvalues hdeclared
  refine ⟨_, hjudge, hcode, hpassed.trans ?_⟩
  rw [Package.affectedValues, List.forall_mem_map]
  exact forall₂_congr fun field hfield => Package.content_listed_iff (hdeclares field hfield)

/-- A format rule with the validator of listed values and a value list rule over the same
fields, all of which declare lists, are not two ways of checking the same. Both are executed,
whenever triggered. The value list rule passes exactly if every value that is there is listed;
the format rule passes exactly if no value is there. So the format rule refuses what the other
accepts as soon as a listed value is there and no other value is refused. -/
theorem listed_values_overlooked (e : Engine) (p : Package) (reportType : String) (record : Json)
    (batch : Option (String × Batch)) {g h : Finding}
    (hg : (r, g) ∈ (p.rulesFor reportType).zip (e.ruleFindingsOf p reportType record batch))
    (hh : (s, h) ∈ (p.rulesFor reportType).zip (e.ruleFindingsOf p reportType record batch))
    (hr : e.ValidatesListed r) (hs : e.ReadsLists s)
    (hsame : r.affectedFields = s.affectedFields) (hfields : s.affectedFields ≠ [])
    (hdeclares : ∀ field ∈ s.affectedFields, p.DeclaresValues field)
    (htriggersR : e.triggers r record = true) (htriggersS : e.triggers s record = true) :
    g.code = .rule ∧ h.code = .rule ∧
    (g.passed = true ↔ ∀ field ∈ s.affectedFields, p.LacksValue record field) ∧
    (h.passed = true ↔
      ∀ field ∈ s.affectedFields, p.LacksValue record field ∨ p.ListsValue record field) ∧
    ((g.passed = true ↔ h.passed = true) ↔
      (∀ field ∈ s.affectedFields, p.LacksValue record field) ∨
      ∃ field ∈ s.affectedFields, ¬ p.LacksValue record field ∧ ¬ p.ListsValue record field) := by
  obtain ⟨g', hjudgeR, hcodeR, hpassedR⟩ := hr.exists_judge_eq (p := p) htriggersR
  obtain ⟨h', hjudgeS, hcodeS, hpassedS⟩ := hs.exists_judge_eq htriggersS hfields hdeclares
  obtain rfl : g = g' := eq_of_judge_settled hg hjudgeR
  obtain rfl : h = h' := eq_of_judge_settled hh hjudgeS
  rw [hsame] at hpassedR
  refine ⟨hcodeR, hcodeS, hpassedR, hpassedS, ?_⟩
  rw [hpassedR, hpassedS]
  constructor
  · intro hagree
    by_cases hlacks : ∀ field ∈ s.affectedFields, p.LacksValue record field
    · exact .inl hlacks
    · have hrefused := mt hagree.2 hlacks
      simp only [not_forall, not_or, exists_prop] at hrefused
      exact .inr hrefused
  · rintro (hlacks | ⟨field, hfield, hpresent, hunlisted⟩)
    · exact ⟨fun _ field hfield => .inl (hlacks field hfield), fun _ => hlacks⟩
    · refine ⟨fun hlacks => absurd (hlacks field hfield) hpresent, fun haccepts => ?_⟩
      rcases haccepts field hfield with hlacks | hlisted
      · exact absurd hlacks hpresent
      · exact absurd hlisted hunlisted

end Engine

/-- A format rule about a side. -/
def Rule.sideFormat : Rule where
  id := "R1"
  severity := .error
  type := .format
  affectedFields := ["side"]

/-- A value list rule about a side. -/
def Rule.sideList : Rule where
  id := "R2"
  severity := .error
  type := .enum
  affectedFields := ["side"]

/-- A package that lists two sides and has both rules about them. -/
def Package.sides : Package where
  id := "SIDES"
  regulationCode := "EMIR"
  version := "1"
  reportTypes := [{ code := "TRADE" }]
  fields := [{ id := "side", requirement := .optional, allowedValues := some ["BUY", "SELL"] }]
  rules := [.sideFormat, .sideList]

/-- The engine whose catalogue has the validator of listed values for the format rule. -/
def Engine.forSides : Engine where
  catalog := Catalog.withValidators {} "R1" [.enumValue]

/-- The entry of the format rule. -/
theorem Engine.forSides_validatesListed : forSides.ValidatesListed .sideFormat :=
  ⟨rfl, by decide⟩

/-- The value list rule has no entry. -/
theorem Engine.forSides_readsLists : forSides.ReadsLists .sideList :=
  ⟨.inl rfl, by decide⟩

/-- The field of the rules declares a list. -/
theorem Package.sides_declaresValues : sides.DeclaresValues "side" :=
  ⟨_, _, rfl, rfl, List.cons_ne_nil _ _⟩

/-- A record of a loan, which is no listed side. -/
def Package.loan : Json := .obj [("side", .str "LOAN")]

/-- Both rules pass on a record without a side, and both refuse a side that is not listed. -/
theorem Package.sides_agree_unless_listed :
    (∃ g h,
      (Rule.sideFormat, g) ∈ (sides.rulesFor "TRADE").zip
        (Engine.forSides.ruleFindingsOf sides "TRADE" (.obj []) none) ∧
      (Rule.sideList, h) ∈ (sides.rulesFor "TRADE").zip
        (Engine.forSides.ruleFindingsOf sides "TRADE" (.obj []) none) ∧
      g.passed = true ∧ h.passed = true) ∧
    ∃ g h,
      (Rule.sideFormat, g) ∈ (sides.rulesFor "TRADE").zip
        (Engine.forSides.ruleFindingsOf sides "TRADE" loan none) ∧
      (Rule.sideList, h) ∈ (sides.rulesFor "TRADE").zip
        (Engine.forSides.ruleFindingsOf sides "TRADE" loan none) ∧
      g.passed = false ∧ h.passed = false := by
  have hdeclares : ∀ field ∈ Rule.sideList.affectedFields, sides.DeclaresValues field := by
    intro field hfield
    obtain rfl : field = "side" := List.mem_singleton.1 hfield
    exact sides_declaresValues
  constructor
  · have hlacks : ∀ field ∈ Rule.sideList.affectedFields, sides.LacksValue (.obj []) field := by
      intro field hfield
      obtain rfl : field = "side" := List.mem_singleton.1 hfield
      rw [LacksValue]
      decide +kernel
    refine ⟨_, _, List.mem_cons_self, List.mem_cons_of_mem _ List.mem_cons_self, ?_⟩
    obtain ⟨-, -, hformat, hlist, -⟩ :=
      Engine.listed_values_overlooked .forSides sides "TRADE" (.obj []) none
        List.mem_cons_self (List.mem_cons_of_mem _ List.mem_cons_self)
        Engine.forSides_validatesListed Engine.forSides_readsLists rfl (List.cons_ne_nil _ _)
        hdeclares rfl rfl
    exact ⟨hformat.2 hlacks, hlist.2 fun field hfield => .inl (hlacks field hfield)⟩
  · have hpresent : ¬ sides.LacksValue loan "side" := by
      rw [LacksValue]
      decide +kernel
    have hunlisted : ¬ sides.ListsValue loan "side" := by
      rintro ⟨f, allowed, v, text, hf, hallowed, hv, htext, hlisted⟩
      obtain rfl := Option.some.inj hf
      obtain rfl := Option.some.inj hallowed
      obtain rfl : Json.str "LOAN" = v := Option.some.inj hv
      obtain rfl := Option.some.inj htext
      exact absurd (notAllowed?_eq_none_iff.2 hlisted) (by decide +kernel)
    refine ⟨_, _, List.mem_cons_self, List.mem_cons_of_mem _ List.mem_cons_self, ?_⟩
    obtain ⟨-, -, hformat, hlist, -⟩ :=
      Engine.listed_values_overlooked .forSides sides "TRADE" loan none
        List.mem_cons_self (List.mem_cons_of_mem _ List.mem_cons_self)
        Engine.forSides_validatesListed Engine.forSides_readsLists rfl (List.cons_ne_nil _ _)
        hdeclares rfl rfl
    have hside : "side" ∈ Rule.sideList.affectedFields := List.mem_cons_self
    exact ⟨Bool.eq_false_iff.2 fun h => hpresent (hformat.1 h "side" hside),
      Bool.eq_false_iff.2 fun h => (hlist.1 h "side" hside).elim hpresent hunlisted⟩

/-- A record of a purchase. -/
def Package.purchase : Json := .obj [("side", .str "BUY")]

/-- The purchase has a listed side. The value list rule passes, but the format rule fails,
although the package is accepted and neither rule has a precondition. -/
theorem Package.purchase_refused :
    sides.verify = .ok () ∧
    Engine.forSides.ValidatesListed .sideFormat ∧ Engine.forSides.ReadsLists .sideList ∧
    Rule.sideFormat.affectedFields = ["side"] ∧ Rule.sideList.affectedFields = ["side"] ∧
    sides.DeclaresValues "side" ∧
    Rule.sideFormat.precondition = none ∧ Rule.sideList.precondition = none ∧
    ∃ g h,
      (Rule.sideFormat, g) ∈ (sides.rulesFor "TRADE").zip
        (Engine.forSides.ruleFindingsOf sides "TRADE" purchase none) ∧
      (Rule.sideList, h) ∈ (sides.rulesFor "TRADE").zip
        (Engine.forSides.ruleFindingsOf sides "TRADE" purchase none) ∧
      g.passed = false ∧ h.passed = true := by
  refine ⟨by decide +kernel, Engine.forSides_validatesListed,
    Engine.forSides_readsLists, rfl, rfl, sides_declaresValues, rfl, rfl, ?_⟩
  exact ⟨_, _, List.mem_cons_self, List.mem_cons_of_mem _ List.mem_cons_self,
    by decide +kernel, by decide +kernel⟩

end RegulatoryReporting
