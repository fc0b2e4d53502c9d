import RegulatoryReporting.Catalog.Basic
import RegulatoryReporting.Package.Basic
import RegulatoryReporting.Validation.Batch
import RegulatoryReporting.Validation.Requirement

/-!
# Findings about Rules

Every rule that belongs to the report type gives one finding. A rule whose precondition
does not hold passes as not triggered; a rule for which the engine lacks something is
reported as not automated, for information only. All other findings have the severity of
their rule.

A rule is *judged* on the record alone. Only a uniqueness rule needs more: its judgement
is a key, and the finding is settled against the keys of the batch. So nothing but
uniqueness findings depends on the batch, and nothing else changes it.

Rules look at the values of their affected fields. An absent value is skipped by all but
the rules that ask whether values are there; an array or an object is refused where a text
is checked.
-/

namespace RegulatoryReporting

/-- What the engine has at hand for every record of a run. -/
structure Engine where
  /-- What is known about rules beside their package. -/
  catalog : Catalog := {}
  /-- The registers that may be asked, if there are any. -/
  reference : Option Lookup := none
  /-- How conditions are evaluated. -/
  evaluator : Evaluator := .ofLimit Evaluator.defaultLimit

instance : Inhabited Engine := ⟨{}⟩

/-! ### Values of affected fields -/

/-- What stands at the place of an affected field. -/
inductive Content
  | absent
  /-- A text, number or truth value, as text. -/
  | scalar (text : String)
  /-- An array or object, as compact JSON. -/
  | compound (text : String)
  deriving DecidableEq, Repr

/-- What stands at a place. -/
def Content.ofPlace (place : Option Json) : Content :=
  match place with
  | none => absent
  | some v =>
    if Json.isAbsent (some v) then absent
    else match v.scalarText? with
      | some text => scalar text
      | none => compound v.print

/-- The text that represents a content in a key. -/
def Content.text? : Content → Option String
  | absent => none
  | scalar text | compound text => some text

/-- An affected field of a rule with what a record holds for it. -/
structure AffectedValue where
  /-- The field as the rule names it. -/
  field : String
  /-- The path at which it was looked up. -/
  path : String
  /-- What was found. -/
  content : Content
  deriving DecidableEq, Repr

/-- The path of an affected field: that of the field of this id, else the name itself. -/
def Package.affectedPath (p : Package) (field : String) : String :=
  match p.field? field with
  | some f => f.lookupPath
  | none => field

/-- The affected fields of a rule in a record. -/
def Package.affectedValues (p : Package) (r : Rule) (record : Json) : List AffectedValue :=
  r.affectedFields.map fun field =>
    let path := p.affectedPath field
    { field, path, content := .ofPlace (resolve record path) }

/-- A check of a text: why it is refused, if it is. -/
abbrev TextCheck := String → Option String

/-- Why a check objects to an affected value. -/
def AffectedValue.objection? (v : AffectedValue) (check : TextCheck) : Option String :=
  match v.content with
  | .absent => none
  | .scalar text => check text
  | .compound _ => some "must be a scalar value"

namespace Rule

/-! ### Findings -/

/-- A finding of a rule that was executed or not triggered. -/
def finding (r : Rule) (code : FindingCode) (passed : Bool) (message : String)
    (path : Option String) : Finding :=
  { subject := r.id, code, severity := r.severity, passed, message, path }

/-- The finding of a rule that cannot be executed. -/
def notAutomated (r : Rule) (reason : String) : Finding :=
  { subject := r.id, code := .ruleNotAutomated, severity := .info, passed := false
    message := s!"{r.name} not automated: {reason}" }

/-- The finding of a rule whose precondition does not hold. -/
def notTriggered (r : Rule) : Finding :=
  r.finding .ruleNotTriggered true "precondition does not hold; rule not triggered" none

/-! ### Checks of values -/

/-- How many values were checked. -/
def checkedMessage : Nat → String
  | 0 => "no populated values to check"
  | 1 => "1 value checked"
  | n => s!"{n} values checked"

/-- The values to which their checks object, with the reasons. -/
def objections (checks : List (AffectedValue × TextCheck)) : List (AffectedValue × String) :=
  checks.filterMap fun (v, check) => (v.objection? check).map fun reason => (v, reason)

/-- The finding of a rule that checks values, each on its own. -/
def valueFinding (r : Rule) (checks : List (AffectedValue × TextCheck)) : Finding :=
  match objections checks with
  | [] =>
    r.finding .rule true (checkedMessage (checks.countP fun c => c.1.content != .absent)) none
  | (first, reason) :: rest =>
    let reasons := ((first, reason) :: rest).map fun (v, reason) => s!"{v.field}: {reason}"
    r.finding .rule false (String.intercalate "; " reasons) (some first.path)

/-- The same check for all values. -/
def alike (values : List AffectedValue) (check : TextCheck) : List (AffectedValue × TextCheck) :=
  values.map fun v => (v, check)

/-- The first reason that any of several validators has to refuse a text. -/
def validatorCheck (validators : List Validator) (reference : Option Lookup) : TextCheck :=
  fun text => validators.findSome? fun v => v.refuses? [] reference text

/-- The finding of a format rule. -/
def formatFinding (e : Engine) (r : Rule) (values : List AffectedValue) : Finding :=
  match e.catalog.validatorsFor r with
  | [] => r.notAutomated "no format validator is configured for this rule"
  | validators => r.valueFinding (alike values (validatorCheck validators e.reference))

/-- The checks of values against the lists that their fields declare, unless some value
has no such list. -/
def declaredChecks? (p : Package) (values : List AffectedValue) :
    Option (List (AffectedValue × TextCheck)) :=
  values.mapM fun v => do
    let f ← p.field? v.field
    let allowed ← f.valueList?
    return (v, notAllowed? allowed)

/-- The finding of a value list rule. -/
def valueListFinding (e : Engine) (p : Package) (r : Rule) (values : List AffectedValue) :
    Finding :=
  match e.catalog.valueList? r.id with
  | some allowed => r.valueFinding (alike values (notAllowed? allowed))
  | none =>
    match declaredChecks? p values with
    | none | some [] => r.notAutomated "no value list is configured for this rule"
    | some checks => r.valueFinding checks

/-- The finding of a reference rule. -/
def referenceFinding (e : Engine) (r : Rule) (values : List AffectedValue) : Finding :=
  match e.catalog.registerFor? r, e.reference with
  | none, _ => r.notAutomated "no reference data kind is configured for this rule"
  | some _, none => r.notAutomated "no reference data provider is configured"
  | some kind, some known =>
    r.valueFinding (alike values (validatorCheck [.ofReferenceKind kind] (some known)))

/-- The finding of a rule that wants values to be there. -/
def requiredFinding (r : Rule) (values : List AffectedValue) : Finding :=
  match values.filter fun v => v.content == .absent with
  | [] => r.finding .rule true "all required values are populated" none
  | first :: rest =>
    let ids := String.intercalate ", " ((first :: rest).map (·.field))
    r.finding .rule false s!"missing required values: {ids}" (some first.path)

/-! ### Assertions -/

/-- The finding of a rule over the whole record: its code decides, else its assertion. -/
def assertionFinding (e : Engine) (r : Rule) (record : Json) : Finding :=
  match e.catalog.handler? r.id, r.assertion with
  | some handler, _ =>
    let outcome := handler r record
    r.finding .rule outcome.passed outcome.message outcome.path
  | none, some assertion =>
    if e.evaluator.evaluate assertion record then
      r.finding .rule true "assertion holds" none
    else r.finding .rule false s!"{r.name} failed: {r.expression}" none
  | none, none =>
    r.notAutomated "rule has no structured assertion and no registered handler"

/-! ### Uniqueness -/

/-- The key of a uniqueness rule, if there are fields and all of them are there. -/
def key? (values : List AffectedValue) : Option (List String) :=
  (values.mapM fun (v : AffectedValue) => v.content.text?).filter fun parts => !parts.isEmpty

/-- The path at which a repeated key is reported: that of the last affected field. -/
def keyPath (values : List AffectedValue) : String :=
  (values.getLast?.map (·.path)).getD ""

/-- The finding of a uniqueness rule whose key is incomplete. -/
def incompleteKeyFinding (r : Rule) : Finding :=
  r.finding .rule true "uniqueness key is incomplete; not checked" none

/-- The finding of a uniqueness rule whose key was seen first in the given record, or is
new. -/
def keyFinding (r : Rule) (parts : List String) (path : String) (first : Option String) :
    Finding :=
  let key := String.intercalate ", " parts
  match first with
  | none => r.finding .rule true s!"key {key} is unique so far" none
  | some first =>
    r.finding .duplicate false s!"duplicate key {key}; first seen in record {first}"
      (some path)

end Rule

/-! ### Judgements -/

/-- What a record says about a rule. -/
inductive Judgement
  /-- The finding, whatever other records hold. -/
  | settled (f : Finding)
  /-- A uniqueness rule, its key if complete, and where a repetition is reported. -/
  | keyed (rule : Rule) (key : Option (List String)) (path : String)

/-- Whether a rule is checked on a record: it has no precondition, or one that holds. -/
def Engine.triggers (e : Engine) (r : Rule) (record : Json) : Bool :=
  r.precondition.all fun c => e.evaluator.evaluate c record

/-- What a record says about a rule that is triggered. -/
def Engine.judgeTriggered (e : Engine) (p : Package) (r : Rule) (record : Json) : Judgement :=
  let values := p.affectedValues r record
  match r.type with
  | .format => .settled (Rule.formatFinding e r values)
  | .enum | .enumeration => .settled (Rule.valueListFinding e p r values)
  | .referential => .settled (Rule.referenceFinding e r values)
  | .crossField | .business => .settled (Rule.assertionFinding e r record)
  | .required => .settled (Rule.requiredFinding r values)
  | .uniqueness => .keyed r (Rule.key? values) (Rule.keyPath values)

/-- What a record says about a rule, whatever the report type. -/
def Engine.judge (e : Engine) (p : Package) (r : Rule) (record : Json) : Judgement :=
  if e.triggers r record then e.judgeTriggered p r record else .settled r.notTriggered

/-- The finding without a batch: uniqueness cannot be checked. -/
def Judgement.settleAlone : Judgement → Finding
  | settled f => f
  | keyed r _ _ => r.notAutomated "uniqueness requires a batch context"

/-- The finding for a record of a batch, and the batch afterwards. -/
def Judgement.settleIn (record : String) (b : Batch) : Judgement → Finding × Batch
  | settled f => (f, b)
  | keyed r none _ => (r.incompleteKeyFinding, b)
  | keyed r (some parts) path =>
    let (first, b) := b.register ⟨r.id, parts⟩ record
    (r.keyFinding parts path first, b)

/-- The findings of several judgements on a record of a batch, one after the other. -/
def Judgement.settleAllIn (record : String) : List Judgement → Batch → List Finding × Batch
  | [], b => ([], b)
  | j :: js, b =>
    let (f, b) := j.settleIn record b
    let (fs, b) := settleAllIn record js b
    (f :: fs, b)

/-- What a record says about the rules of a report type. -/
def Engine.judgeAll (e : Engine) (p : Package) (reportType : String) (record : Json) :
    List Judgement :=
  (p.rules.filter fun r => r.appliesTo reportType).map fun r => e.judge p r record

end RegulatoryReporting
