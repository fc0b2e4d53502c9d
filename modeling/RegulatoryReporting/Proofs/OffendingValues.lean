import RegulatoryReporting.Proofs.FieldReports
import RegulatoryReporting.Proofs.ListedValues

/-!
# Offending Values

Format rules, value list rules and reference rules check the texts at their affected fields,
each type against something of its own: its validators, a list or a register. A field *offends*
if there is an array or object at its place, or a text that is refused. Where nothing is there,
nothing offends.

This is all that decides the finding of such a rule, whatever its type and wherever its lists
come from. The rule passes exactly if no affected field offends. Otherwise the finding stands
at the first field that does, and its message goes through all of them in the order of the
rule, each with its reason.

## Main results

* `Engine.IsCheck.objection?_eq_some_iff` — a check objects to a field exactly if it offends.
* `Rule.listsOffences_valueFinding` — a finding lists the fields to which the checks object.
* `Engine.exists_judge_eq_of_checksTexts` — the same for the finding of every type of rule.
* `Engine.offences_listed` — the finding of a rule that checks texts.
-/

namespace RegulatoryReporting

/-! ### Why a field offends -/

/-- A text is not among allowed values, and the reason names both. -/
structure IsUnlisted (allowed : List String) (text reason : String) : Prop where
  unlisted : ¬ IsListed allowed text
  reason_eq :
    reason = "'" ++ Text.trim text ++ "' is not one of: " ++ String.intercalate ", " allowed

/-- The reason of the first of several validators that refuses a text. -/
def Validator.RefusesFirst (validators : List Validator) (reference : Option Lookup)
    (text reason : String) : Prop :=
  ∃ before v after, validators = before ++ v :: after ∧
    v.refuses? [] reference text = some reason ∧
    ∀ u ∈ before, u.refuses? [] reference text = none

/-- The rule is of a type that checks the texts of its affected fields. -/
def Rule.ChecksTexts (r : Rule) : Prop :=
  r.type ∈ [.format, .enum, .enumeration, .referential]

/-- Why a rule refuses a text at an affected field. -/
def Engine.Refuses (e : Engine) (p : Package) (r : Rule) (field text reason : String) : Prop :=
  match r.type with
  | .format => Validator.RefusesFirst (e.catalog.validatorsFor r) e.reference text reason
  | .enum | .enumeration =>
    -- A list in the catalogue goes before those of the fields.
    match e.catalog.valueList? r.id with
    | some allowed => IsUnlisted allowed text reason
    | none => ∃ f allowed, p.field? field = some f ∧ f.valueList? = some allowed ∧
        IsUnlisted allowed text reason
  | .referential => ∃ kind known, e.catalog.registerFor? r = some kind ∧
      e.reference = some known ∧
      (Validator.ofReferenceKind kind).refuses? [] (some known) text = some reason
  | _ => False

/-- Why an affected field of a rule offends in a record. -/
inductive Engine.Offends (e : Engine) (p : Package) (r : Rule) (record : Json) (field : String) :
    String → Prop
  /-- There is an array or object. -/
  | container {v : Json} (there : presentValue? record (p.affectedPath field) = some v)
      (h : v.isContainer = true) : Offends e p r record field "must be a scalar value"
  /-- There is a text that the rule refuses. -/
  | text {v : Json} {text reason : String}
      (there : presentValue? record (p.affectedPath field) = some v)
      (scalar : v.scalarText? = some text) (h : e.Refuses p r field text reason) :
      Offends e p r record field reason

/-- The fields that offend, in their order and each with its reason. -/
inductive Offences (offends : String → String → Prop) :
    List String → List (String × String) → Prop
  | nil : Offences offends [] []
  | keeps {field : String} {fields : List String} {offences : List (String × String)}
      (h : ∀ reason, ¬ offends field reason) (rest : Offences offends fields offences) :
      Offences offends (field :: fields) offences
  | breaks {field reason : String} {fields : List String} {offences : List (String × String)}
      (h : offends field reason) (rest : Offences offends fields offences) :
      Offences offends (field :: fields) ((field, reason) :: offences)

/-- The finding of an executed rule lists what offends. -/
structure Rule.ListsOffences (r : Rule) (p : Package) (offends : String → String → Prop)
    (g : Finding) : Prop where
  /-- The rule was executed. -/
  executed : g.subject = r.id ∧ g.code = .rule ∧ g.severity = r.severity
  /-- It passes exactly if no affected field offends. -/
  passed_iff : g.passed = true ↔ ∀ field ∈ r.affectedFields, ∀ reason, ¬ offends field reason
  /-- Otherwise the first field that offends is the place, and all of them are listed. -/
  failed : g.passed = false → ∃ field reason rest,
    Offences offends r.affectedFields ((field, reason) :: rest) ∧
      g.path = some (p.affectedPath field) ∧
      g.message = String.intercalate "; "
        (((field, reason) :: rest).map fun o => o.1 ++ ": " ++ o.2)

/-! ### Objections -/

/-- A list objects to a text exactly if it is not listed. -/
theorem notAllowed?_eq_some_iff {allowed : List String} {text reason : String} :
    notAllowed? allowed text = some reason ↔ IsUnlisted allowed text reason := by
  have hlisted : (allowed.any fun candidate => Text.trim candidate == Text.trim text) = true ↔
      IsListed allowed text := by
    simp [IsListed]
  rw [notAllowed?]
  split
  next hany => exact iff_of_false (by simp) fun h => h.unlisted (hlisted.1 hany)
  next hany =>
    rw [Option.some.injEq]
    exact ⟨fun h => ⟨mt hlisted.2 hany, h.symm⟩, fun h => h.reason_eq.symm⟩

/-- An affected field with what a record holds for it. -/
def Package.affectedValue (p : Package) (record : Json) (field : String) : AffectedValue :=
  ⟨field, p.affectedPath field, .ofPlace (resolve record (p.affectedPath field))⟩

/-- A check objects to the value of an affected field if it is an array or object, or has a text
that the check refuses. -/
theorem Package.objection?_affectedValue_eq_some_iff {p : Package} {record : Json}
    {field reason : String} {check : TextCheck} :
    (p.affectedValue record field).objection? check = some reason ↔
      ∃ v, presentValue? record (p.affectedPath field) = some v ∧
        (v.isContainer = true ∧ "must be a scalar value" = reason ∨
          ∃ text, v.scalarText? = some text ∧ check text = some reason) := by
  rw [AffectedValue.objection?, affectedValue, Content.ofPlace_eq, ← presentValue?]
  cases hplace : presentValue? record (p.affectedPath field) with
  | none => simp
  | some v =>
    cases htext : v.scalarText? with
    | none => simp [isContainer_of_presentValue? hplace htext, htext]
    | some text =>
      have hscalar : v.isContainer ≠ true := by
        intro hcontainer
        rw [Json.scalarText?_of_isContainer hcontainer] at htext
        cases htext
      simp [hscalar, htext]

/-- Where nothing is there, nothing offends. -/
theorem Engine.not_offends_of_isAbsent {e : Engine} {p : Package} {r : Rule} {record : Json}
    {field : String} (h : Json.isAbsent (resolve record (p.affectedPath field)) = true)
    (reason : String) : ¬ e.Offends p r record field reason := by
  have hnone := presentValue?_eq_none_iff.2 h
  rintro (⟨hthere, -⟩ | ⟨hthere, -, -⟩) <;> cases hnone.symm.trans hthere

/-! ### Checks -/

/-- A check of an affected field: it looks at the value of the field, and refuses a text as the
rule does. -/
structure Engine.IsCheck (e : Engine) (p : Package) (r : Rule) (record : Json) (field : String)
    (check : AffectedValue × TextCheck) : Prop where
  value : check.1 = p.affectedValue record field
  refuses : ∀ text reason, check.2 text = some reason ↔ e.Refuses p r field text reason

section Checks

variable {e : Engine} {p : Package} {r : Rule} {record : Json} {field : String}

/-- The check of a field objects exactly if the field offends. -/
theorem Engine.IsCheck.objection?_eq_some_iff {check : AffectedValue × TextCheck}
    (h : e.IsCheck p r record field check) {reason : String} :
    check.1.objection? check.2 = some reason ↔ e.Offends p r record field reason := by
  rw [h.value, Package.objection?_affectedValue_eq_some_iff]
  constructor
  · rintro ⟨v, hv, ⟨hcontainer, rfl⟩ | ⟨text, htext, hrefused⟩⟩
    · exact .container hv hcontainer
    · exact .text hv htext ((h.refuses text reason).1 hrefused)
  · rintro (⟨hv, hcontainer⟩ | ⟨hv, htext, hrefused⟩)
    · exact ⟨_, hv, .inl ⟨hcontainer, rfl⟩⟩
    · exact ⟨_, hv, .inr ⟨_, htext, (h.refuses _ _).2 hrefused⟩⟩

/-- A check that objects to its value adds this value and the reason. -/
theorem Rule.objections_cons (check : AffectedValue × TextCheck)
    (checks : List (AffectedValue × TextCheck)) :
    objections (check :: checks) =
      ((check.1.objection? check.2).map fun reason => (check.1, reason)).toList ++
        objections checks := by
  obtain ⟨v, check⟩ := check
  simp only [objections, List.filterMap_cons]
  cases v.objection? check <;> rfl

/-- The checks of some fields object to the values of those that offend, in their order. -/
theorem Engine.exists_offences_of_isCheck {fields : List String}
    {checks : List (AffectedValue × TextCheck)}
    (h : List.Forall₂ (e.IsCheck p r record) fields checks) :
    ∃ offences, Offences (e.Offends p r record) fields offences ∧
      Rule.objections checks = offences.map fun o => (p.affectedValue record o.1, o.2) := by
  induction h with
  | nil => exact ⟨[], .nil, rfl⟩
  | @cons field check fields checks hcheck _ ih =>
    obtain ⟨offences, hoffences, hobjections⟩ := ih
    cases hobjection : check.1.objection? check.2 with
    | none =>
      have hkeeps : ∀ reason, ¬ e.Offends p r record field reason := by
        intro reason hoffends
        rw [hcheck.objection?_eq_some_iff.2 hoffends] at hobjection
        cases hobjection
      refine ⟨offences, .keeps hkeeps hoffences, ?_⟩
      rw [Rule.objections_cons, hobjection, hobjections]
      rfl
    | some reason =>
      refine ⟨(field, reason) :: offences,
        .breaks (hcheck.objection?_eq_some_iff.1 hobjection) hoffences, ?_⟩
      rw [Rule.objections_cons, hobjection, hobjections, hcheck.value]
      rfl

/-- Nothing offends exactly if there is nothing to list. -/
theorem Offences.eq_nil_iff {offends : String → String → Prop} {fields : List String}
    {offences : List (String × String)} (h : Offences offends fields offences) :
    offences = [] ↔ ∀ field ∈ fields, ∀ reason, ¬ offends field reason := by
  induction h with
  | nil => simp
  | keeps hkeeps _ ih => rw [ih, List.forall_mem_cons, and_iff_right hkeeps]
  | breaks hbreaks _ _ =>
    refine iff_of_false (List.cons_ne_nil _ _) fun hnone => ?_
    exact hnone _ List.mem_cons_self _ hbreaks

/-- The finding of a rule with objections stands at the first of them and lists all. -/
theorem Rule.valueFinding_of_objections {checks : List (AffectedValue × TextCheck)}
    {first : AffectedValue × String} {rest : List (AffectedValue × String)}
    (h : objections checks = first :: rest) :
    r.valueFinding checks = r.finding .rule false
      (String.intercalate "; " ((first :: rest).map fun o => o.1.field ++ ": " ++ o.2))
      (some first.1.path) := by
  rw [valueFinding, h]
  rfl

/-- The finding of a rule that checks its affected fields lists those that offend. -/
theorem Rule.listsOffences_valueFinding {checks : List (AffectedValue × TextCheck)}
    (h : List.Forall₂ (e.IsCheck p r record) r.affectedFields checks) :
    r.ListsOffences p (e.Offends p r record) (r.valueFinding checks) := by
  obtain ⟨offences, hoffences, hobjections⟩ := Engine.exists_offences_of_isCheck h
  obtain ⟨hsubject, hcode, hseverity, hpassed⟩ := valueFinding_header (r := r) checks
  refine ⟨⟨hsubject, hcode, hseverity⟩, ?_, fun hfailed => ?_⟩
  · rw [hpassed, hobjections, List.map_eq_nil_iff, hoffences.eq_nil_iff]
  · cases offences with
    | nil => simp [hpassed.2 hobjections] at hfailed
    | cons first rest =>
      obtain ⟨field, reason⟩ := first
      rw [valueFinding_of_objections hobjections]
      refine ⟨field, reason, rest, hoffences, rfl, ?_⟩
      simp only [finding, List.map_cons, List.map_map]
      rfl

/-! ### Every type of rule -/

/-- One check for all affected fields, which refuses as the rule does. -/
theorem Engine.forall₂_isCheck_alike {check : TextCheck}
    (h : ∀ field text reason, check text = some reason ↔ e.Refuses p r field text reason) :
    List.Forall₂ (e.IsCheck p r record) r.affectedFields
      (Rule.alike (p.affectedValues r record) check) := by
  rw [Rule.alike, Package.affectedValues, List.map_map, List.forall₂_map_right_iff,
    List.forall₂_same]
  exact fun field _ => ⟨rfl, h field⟩

/-- The checks against the lists that fields declare, where the catalogue has none. -/
theorem Engine.forall₂_isCheck_declaredChecks? (htype : r.type = .enum ∨ r.type = .enumeration)
    (hnone : e.catalog.valueList? r.id = none) {checks : List (AffectedValue × TextCheck)}
    (h : Rule.declaredChecks? p (p.affectedValues r record) = some checks) :
    List.Forall₂ (e.IsCheck p r record) r.affectedFields checks := by
  have hall := Rule.forall₂_declaredChecks? h
  rw [Package.affectedValues, List.forall₂_map_left_iff] at hall
  refine hall.imp fun field check hcheck => ?_
  obtain ⟨f, allowed, hfield, hlist, rfl⟩ := hcheck
  refine ⟨rfl, fun text reason => ?_⟩
  have hrefuses : e.Refuses p r field text reason ↔ ∃ f allowed, p.field? field = some f ∧
      f.valueList? = some allowed ∧ IsUnlisted allowed text reason := by
    rcases htype with htype | htype <;> rw [Refuses, htype] <;> simp only [hnone]
  rw [hrefuses, notAllowed?_eq_some_iff]
  constructor
  · exact fun hunlisted => ⟨f, allowed, hfield, hlist, hunlisted⟩
  · rintro ⟨g, others, hg, hothers, hunlisted⟩
    obtain rfl : f = g := Option.some.inj (hfield.symm.trans hg)
    obtain rfl : allowed = others := Option.some.inj (hlist.symm.trans hothers)
    exact hunlisted

/-- The finding of a format rule with validators lists what offends. -/
theorem Engine.listsOffences_formatFinding (htype : r.type = .format)
    (hsome : e.catalog.validatorsFor r ≠ []) :
    r.ListsOffences p (e.Offends p r record)
      (Rule.formatFinding e r (p.affectedValues r record)) := by
  have hfinding : Rule.formatFinding e r (p.affectedValues r record) = r.valueFinding
      (Rule.alike (p.affectedValues r record)
        (Rule.validatorCheck (e.catalog.validatorsFor r) e.reference)) := by
    rw [Rule.formatFinding]
    split
    next hnone => exact absurd hnone hsome
    next => rfl
  rw [hfinding]
  refine Rule.listsOffences_valueFinding (forall₂_isCheck_alike fun field text reason => ?_)
  rw [Refuses, htype]
  exact List.findSome?_eq_some_iff

/-- The finding of a value list rule with lists lists what offends. -/
theorem Engine.listsOffences_valueListFinding (htype : r.type = .enum ∨ r.type = .enumeration)
    (hlists : ¬ (e.catalog.valueList? r.id = none ∧
      (r.affectedFields = [] ∨ ∃ field ∈ r.affectedFields, ¬ p.DeclaresValues field))) :
    r.ListsOffences p (e.Offends p r record)
      (Rule.valueListFinding e p r (p.affectedValues r record)) := by
  cases hentry : e.catalog.valueList? r.id with
  | some allowed =>
    rw [Rule.valueListFinding, hentry]
    refine Rule.listsOffences_valueFinding (forall₂_isCheck_alike fun field text reason => ?_)
    rcases htype with htype | htype <;> rw [Refuses, htype] <;>
      simp only [hentry, notAllowed?_eq_some_iff]
  | none =>
    rw [← p.affectedValues_eq_nil_iff r record, ← p.exists_undeclared_affectedValues_iff r record]
      at hlists
    simp only [hentry, true_and, not_or, not_exists, not_and, not_not] at hlists
    obtain ⟨checks, hchecks, hcons⟩ := Rule.exists_declaredChecks? hlists.1 hlists.2
    rw [Rule.valueListFinding_of_declaredChecks? hentry hchecks hcons]
    exact Rule.listsOffences_valueFinding
      (forall₂_isCheck_declaredChecks? htype hentry hchecks)

/-- The finding of a reference rule with a register that can be asked lists what offends. -/
theorem Engine.listsOffences_referenceFinding (htype : r.type = .referential)
    (hasked : ¬ (e.catalog.registerFor? r = none ∨ e.reference = none)) :
    r.ListsOffences p (e.Offends p r record)
      (Rule.referenceFinding e r (p.affectedValues r record)) := by
  rw [not_or, ← Ne, ← Ne, Option.ne_none_iff_exists', Option.ne_none_iff_exists'] at hasked
  obtain ⟨⟨kind, hkind⟩, known, hknown⟩ := hasked
  rw [Rule.referenceFinding, hkind, hknown]
  refine Rule.listsOffences_valueFinding (forall₂_isCheck_alike fun field text reason => ?_)
  have hone : Rule.validatorCheck [.ofReferenceKind kind] (some known) text =
      (Validator.ofReferenceKind kind).refuses? [] (some known) text := by
    simp [Rule.validatorCheck]
  rw [hone, Refuses, htype]
  simp only [hkind, hknown, Option.some.injEq, exists_and_left, exists_eq_left']

/-- A rule that checks texts, once triggered, lists what offends unless something is lacking. -/
theorem Engine.exists_judge_eq_listsOffences (htype : r.ChecksTexts)
    (htriggers : e.triggers r record = true) {inBatch : Bool} (hlacks : ¬ e.Lacks p r inBatch) :
    ∃ g, e.judge p r record = .settled g ∧ r.ListsOffences p (e.Offends p r record) g := by
  rw [judge, if_pos htriggers, judgeTriggered]
  rw [Lacks] at hlacks
  cases h : r.type with
  | format => exact ⟨_, rfl, listsOffences_formatFinding h (by simpa only [h] using hlacks)⟩
  | enum =>
    exact ⟨_, rfl, listsOffences_valueListFinding (.inl h) (by simpa only [h] using hlacks)⟩
  | enumeration =>
    exact ⟨_, rfl, listsOffences_valueListFinding (.inr h) (by simpa only [h] using hlacks)⟩
  | referential =>
    exact ⟨_, rfl, listsOffences_referenceFinding h (by simpa only [h] using hlacks)⟩
  | crossField | business | required | uniqueness =>
    rw [Rule.ChecksTexts, h] at htype
    exact absurd htype (by decide)

/-- A rule that checks texts is executed if it is triggered and nothing is lacking, and then
lists what offends. -/
theorem Engine.exists_judge_eq_of_checksTexts (htype : r.ChecksTexts) :
    ∃ g, e.judge p r record = .settled g ∧
      (∀ inBatch, g.code = .rule ↔ e.triggers r record = true ∧ ¬ e.Lacks p r inBatch) ∧
      (g.code = .rule → r.ListsOffences p (e.Offends p r record) g) := by
  cases htriggers : e.triggers r record with
  | false =>
    have hjudge : e.judge p r record = .settled r.notTriggered := by
      rw [judge, htriggers]
      rfl
    have hother : r.notTriggered.code ≠ .rule := by simp [Rule.notTriggered, Rule.finding]
    exact ⟨_, hjudge, fun _ => iff_of_false hother fun h => Bool.false_ne_true h.1,
      fun hcode => absurd hcode hother⟩
  | true =>
    have hunique : r.type ≠ .uniqueness := by
      intro h
      rw [Rule.ChecksTexts, h] at htype
      exact absurd htype (by decide)
    have hends : ∀ inBatch, ∃ g, e.judgeTriggered p r record = .settled g ∧
        g.IsOutcome (e.Lacks p r inBatch) := exists_isOutcome_judgeTriggered hunique
    obtain ⟨g, hg, -⟩ := hends false
    have hjudge : e.judge p r record = .settled g := by
      rw [judge, if_pos htriggers, hg]
    have hlists : ∀ inBatch, ¬ e.Lacks p r inBatch →
        r.ListsOffences p (e.Offends p r record) g := by
      intro inBatch hlacks
      obtain ⟨h, hh, hlists⟩ := exists_judge_eq_listsOffences htype htriggers hlacks
      obtain rfl : g = h := Judgement.settled.inj (hjudge.symm.trans hh)
      exact hlists
    have hexecuted : ∀ inBatch, g.code = .rule → ¬ e.Lacks p r inBatch := by
      intro inBatch hcode hlacks
      obtain ⟨h, hh, houtcome⟩ := hends inBatch
      obtain rfl : g = h := Judgement.settled.inj (hg.symm.trans hh)
      rw [houtcome.of_lacks hlacks] at hcode
      cases hcode
    refine ⟨g, hjudge, fun inBatch => ?_, fun hcode => hlists false (hexecuted false hcode)⟩
    rw [and_iff_right rfl]
    exact ⟨hexecuted inBatch, fun hlacks => (hlists inBatch hlacks).executed.2.1⟩

/-! ### One list in two places -/

/-- Two engines that find one list for the values of a rule: one in its catalogue, the other at
each of the fields. -/
structure Engine.ListedAlike (e e' : Engine) (p : Package) (r : Rule) (allowed : List String) :
    Prop where
  type : r.type = .enum ∨ r.type = .enumeration
  /-- The rule has affected fields. -/
  fields : r.affectedFields ≠ []
  some_value : allowed ≠ []
  declared : ∀ field ∈ r.affectedFields, ∃ f, p.field? field = some f ∧
    f.allowedValues = some allowed
  no_entry : e.catalog.valueList? r.id = none
  entry : e'.catalog.valueList? r.id = some allowed
  evaluator : e'.evaluator = e.evaluator

/-- It does not matter to a value list rule where the list stands. -/
theorem Engine.ListedAlike.exists_judge_eq {e' : Engine} {allowed : List String}
    (h : e.ListedAlike e' p r allowed) :
    ∃ g, e.judge p r record = .settled g ∧ e'.judge p r record = .settled g := by
  have htriggers : e'.triggers r record = e.triggers r record := by
    rw [triggers, triggers, h.evaluator]
  rw [judge, judge, htriggers]
  split
  next =>
    have hdeclared : Rule.declaredChecks? p (p.affectedValues r record) =
        some (Rule.alike (p.affectedValues r record) (notAllowed? allowed)) := by
      refine mapM_eq_some_map ?_
      rw [Package.affectedValues, List.forall_mem_map]
      intro field hfield
      obtain ⟨f, hf, hgiven⟩ := h.declared field hfield
      simp [hf, Field.valueList?_eq_some_iff.2 ⟨hgiven, h.some_value⟩]
    have hcons : Rule.alike (p.affectedValues r record) (notAllowed? allowed) ≠ [] := by
      rw [Rule.alike, Ne, List.map_eq_nil_iff, p.affectedValues_eq_nil_iff]
      exact h.fields
    have hfinding : Rule.valueListFinding e' p r (p.affectedValues r record) =
        Rule.valueListFinding e p r (p.affectedValues r record) := by
      rw [Rule.valueListFinding_of_declaredChecks? h.no_entry hdeclared hcons,
        Rule.valueListFinding, h.entry]
    rw [judgeTriggered, judgeTriggered]
    rcases h.type with htype | htype <;> rw [htype, hfinding] <;> exact ⟨_, rfl, rfl⟩
  next => exact ⟨_, rfl, rfl⟩

end Checks

/-- **What a rule finds that checks texts.** Such a rule has one finding, alone and in every
batch. It is executed exactly if it is triggered and nothing is lacking, and then its finding
lists the affected fields that offend. Nothing offends where a value is missing, null or blank.
And it does not matter to a value list rule whether its list stands in the catalogue or at each
of its fields. -/
theorem Engine.offences_listed (e : Engine) (p : Package) (r : Rule) (record : Json) :
    (r.ChecksTexts → ∃ g, e.judge p r record = .settled g ∧
      (∀ reportType batch h, (r, h) ∈ (p.rulesFor reportType).zip
        (e.ruleFindingsOf p reportType record batch) → h = g) ∧
      (∀ inBatch, g.code = .rule ↔ e.triggers r record = true ∧ ¬ e.Lacks p r inBatch) ∧
      (g.code = .rule → r.ListsOffences p (e.Offends p r record) g)) ∧
    (∀ field place, resolve record (p.affectedPath field) = place →
      (place = none ∨ place = some .null ∨
        ∃ text, place = some (.str text) ∧ Text.isBlank text = true) →
      ∀ reason, ¬ e.Offends p r record field reason) ∧
    (∀ e' allowed, e.ListedAlike e' p r allowed →
      ∃ g, e.judge p r record = .settled g ∧ e'.judge p r record = .settled g) := by
  refine ⟨fun htype => ?listed, ?absent, fun e' allowed h => h.exists_judge_eq⟩
  case listed =>
    obtain ⟨g, hjudge, hexecuted, hlists⟩ := exists_judge_eq_of_checksTexts htype
    exact ⟨g, hjudge, fun _ _ _ hpair => eq_of_judge_settled hpair hjudge, hexecuted, hlists⟩
  case absent =>
    rintro field place rfl habsent
    exact not_offends_of_isAbsent (Json.isAbsent_iff.2 habsent)

/-- A record with two sides. -/
def Package.bothSides : Json := .obj [("side", .arr [.str "BUY", .str "SELL"])]

/-- Two sides are not one: the value list rule is executed on the record and fails, and so has an
offence to list. -/
theorem Package.bothSides_offences_listed :
    ∃ g, Engine.forSides.judge sides .sideList bothSides = .settled g ∧ g.code = .rule ∧
      g.passed = false ∧
      Rule.sideList.ListsOffences sides (Engine.forSides.Offends sides .sideList bothSides) g := by
  have htype : Rule.sideList.ChecksTexts := by
    rw [Rule.ChecksTexts]
    decide
  obtain ⟨g, hjudge, -, hexecuted, hlists⟩ :=
    (Engine.offences_listed .forSides sides .sideList bothSides).1 htype
  have hlacks : ¬ Engine.forSides.Lacks sides .sideList false := by
    rintro ⟨-, hnone | ⟨field, hfield, hnot⟩⟩
    · cases hnone
    · obtain rfl : field = "side" := List.mem_singleton.1 hfield
      exact hnot sides_declaresValues
  have hcode : g.code = .rule := (hexecuted false).2 ⟨rfl, hlacks⟩
  have hfailed : (Engine.forSides.judge sides .sideList bothSides).settleAlone.passed = false := by
    decide +kernel
  rw [hjudge] at hfailed
  exact ⟨g, hjudge, hcode, hfailed, hlists hcode⟩

/-- The fields that offend are listed in the order of the rule, not in that of the record, and a
blank value is passed over. -/
example :
    let r : Rule := { Rule.sideList with affectedFields := ["venue", "desk", "side"] }
    let e : Engine := { catalog := Catalog.withValueList {} "R2" ["BUY", "SELL"] }
    let record := Json.obj [("side", .str "HOLD"), ("venue", .arr []), ("desk", .str " ")]
    (e.judge Package.sides r record).settleAlone.message =
      "venue: must be a scalar value; side: 'HOLD' is not one of: BUY, SELL" := by
  decide +kernel

end RegulatoryReporting
