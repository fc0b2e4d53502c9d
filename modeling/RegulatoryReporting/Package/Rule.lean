import RegulatoryReporting.Condition.Wire
import RegulatoryReporting.Finding
import RegulatoryReporting.Package.Field

/-!
# Rules

A rule of a regulation checks the values of some fields or an assertion over the whole
record. It may have a precondition, and it may be limited to some report types.
-/

namespace RegulatoryReporting

/-! ### Types of rules -/

/-- What a rule checks. -/
inductive RuleType
  /-- The form of values. -/
  | format
  /-- An assertion over several fields. -/
  | crossField
  /-- An assertion over the record. -/
  | business
  /-- Values are in a list. -/
  | enum
  /-- The same under its longer name. -/
  | enumeration
  /-- Values are known to a register. -/
  | referential
  /-- No earlier record of the batch has the same values. -/
  | uniqueness
  /-- Values are there. -/
  | required
  deriving DecidableEq, Repr

namespace RuleType

/-- The name of a type. -/
def name : RuleType → String
  | format => "format"
  | crossField => "cross_field"
  | business => "business"
  | enum => "enum"
  | enumeration => "enumeration"
  | referential => "referential"
  | uniqueness => "uniqueness"
  | required => "required"

/-- Every type. -/
def all : List RuleType :=
  [format, crossField, business, enum, enumeration, referential, uniqueness, required]

/-- The types under their names. -/
def wireNames : List (String × RuleType) := all.map fun t => (t.name, t)

/-- Read the name of a type, in any case and with blanks around it. -/
def ofName (s : String) : Except UnknownName RuleType :=
  lookupName "rule type" wireNames (Text.normalizeName s)

end RuleType

/-! ### Rules -/

/-- A rule of a regulation. -/
structure Rule where
  /-- The id of the rule. -/
  id : String
  /-- Its name, possibly empty. -/
  name : String := ""
  /-- What the rule is about. -/
  description : Option String := none
  /-- How severe a failure is. -/
  severity : Severity
  /-- What the rule checks. -/
  type : RuleType
  /-- The rule in prose. -/
  expression : String := ""
  /-- The ids or paths of the fields that the rule looks at. -/
  affectedFields : List String := []
  /-- What the rule asserts. -/
  assertion : Option Condition := none
  /-- When the rule is checked. -/
  precondition : Option Condition := none
  /-- The report types to which the rule belongs. -/
  reportTypes : Option (List String) := none
  deriving Repr

namespace Rule

/-- The rule of an id over no fields. -/
def new (id : String) (type : RuleType) (severity : Severity) : Rule :=
  { id, name := id, type, severity }

/-- Whether the rule belongs to a report type. -/
def appliesTo (r : Rule) (reportType : String) : Bool := inScope r.reportTypes reportType

/-- The prose of the rule: its name, its description and its expression. -/
def descriptiveText (r : Rule) : String :=
  let described := match r.description with
    | some d => r.name ++ " " ++ d
    | none => r.name
  described ++ " " ++ r.expression

/-! ### Wire form -/

/-- What was read of a rule. -/
structure Draft where
  /-- The id. -/
  id : Option String := none
  /-- The name. -/
  name : Option String := none
  /-- The description. -/
  description : Option (Option String) := none
  /-- The severity. -/
  severity : Option Severity := none
  /-- The type. -/
  type : Option RuleType := none
  /-- The expression. -/
  expression : Option String := none
  /-- The fields. -/
  affectedFields : Option (List String) := none
  /-- The assertion. -/
  assertion : Option (Option Condition) := none
  /-- The precondition. -/
  precondition : Option (Option Condition) := none
  /-- The scope. -/
  reportTypes : Option (Option (List String)) := none

open Decoder in
/-- The members of a rule. -/
def slots : List (Slot Draft) :=
  [slot "rule_id" true string (·.id) fun s a => { s with id := some a },
   slot "name" false string (·.name) fun s a => { s with name := some a },
   slot "description" false (optional string) (·.description)
     fun s a => { s with description := some a },
   slot "severity" true (Decoder.name Severity.wireNames) (·.severity)
     fun s a => { s with severity := some a },
   slot "rule_type" true (Decoder.name RuleType.wireNames) (·.type)
     fun s a => { s with type := some a },
   slot "expression" false string (·.expression) fun s a => { s with expression := some a },
   slot "affected_fields" false (list string) (·.affectedFields)
     fun s a => { s with affectedFields := some a },
   slot "condition_expr" false (optional Condition.decoder) (·.assertion)
     fun s a => { s with assertion := some a },
   slot "applies_when" false (optional Condition.decoder) (·.precondition)
     fun s a => { s with precondition := some a },
   slot "report_types" false (optional (list string)) (·.reportTypes)
     fun s a => { s with reportTypes := some a }]

open Decoder in
/-- The rule once its members were read. -/
def Draft.finish (s : Draft) : Except DecodeError Rule := do
  let id ← require "rule_id" s.id
  let severity ← require "severity" s.severity
  let type ← require "rule_type" s.type
  return {
    id, severity, type
    name := s.name.getD ""
    description := s.description.join
    expression := s.expression.getD ""
    affectedFields := s.affectedFields.getD []
    assertion := s.assertion.join
    precondition := s.precondition.join
    reportTypes := s.reportTypes.join }

/-- The decoder of rules. -/
def decoder : Decoder Rule := Decoder.structured "ValidationRuleSpec" slots {} Draft.finish

/-- The wire form of a rule. -/
def toJson (r : Rule) : Json :=
  .obj ([("affected_fields", .ofStrings r.affectedFields)] ++
    Json.optionalMember "applies_when" (r.precondition.map Condition.toJson) ++
    Json.optionalMember "condition_expr" (r.assertion.map Condition.toJson) ++
    Json.optionalText "description" r.description ++
    [("expression", .str r.expression), ("name", .str r.name)] ++
    Json.optionalTexts "report_types" r.reportTypes ++
    [("rule_id", .str r.id), ("rule_type", .str r.type.name),
      ("severity", .str r.severity.label)])

end Rule

end RegulatoryReporting
