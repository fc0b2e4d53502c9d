import RegulatoryReporting.Condition.Wire
import RegulatoryReporting.Text.Case

/-!
# Fields

A field of a regulation: where its value stands in a record, whether the value must be
there, and which constraints it obeys. The requirement of a conditional field is decided
by its condition; its prose is for readers only.

A field or a rule may be limited to some of the report types of its package. Codes of a
scope are compared without the blanks around them and without the case of ASCII letters.
-/

namespace RegulatoryReporting

/-! ### Scopes -/

/-- Whether a code of a scope names a report type. -/
def scopeCodeMatches (code reportType : String) : Bool :=
  Text.asciiCaseEq (Text.trim code) (Text.trim reportType)

/-- Whether a scope holds a report type; a scope without codes holds all of them. -/
def inScope (scope : Option (List String)) (reportType : String) : Bool :=
  match scope with
  | none => true
  | some [] => true
  | some codes => codes.any fun code => scopeCodeMatches code reportType

/-! ### Requirement -/

/-- Whether a field must have a value. -/
inductive Requirement
  | mandatory
  | conditional
  | optional
  deriving DecidableEq, Repr

namespace Requirement

/-- The name of a requirement. -/
def name : Requirement → String
  | mandatory => "mandatory"
  | conditional => "conditional"
  | optional => "optional"

/-- The names under which a requirement is written: in full or by a capital letter. -/
def wireNames : List (String × Requirement) :=
  [("M", mandatory), ("mandatory", mandatory), ("C", conditional),
    ("conditional", conditional), ("O", optional), ("optional", optional)]

/-- Read the name of a requirement, in any case and with blanks around it. -/
def ofName (s : String) : Except UnknownName Requirement :=
  lookupName "requirement"
    [("mandatory", mandatory), ("m", mandatory), ("conditional", conditional),
      ("c", conditional), ("optional", optional), ("o", optional)]
    (Text.normalizeName s)

end Requirement

/-! ### Fields -/

/-- A field of a regulation. -/
structure Field where
  /-- The id of the field. -/
  id : String
  /-- Its name, possibly empty. -/
  name : String := ""
  /-- What the field is about. -/
  description : Option String := none
  /-- The group of fields to which it belongs. -/
  category : Option String := none
  /-- The kind of data, for readers. -/
  dataType : Option String := none
  /-- Whether the field must have a value. -/
  requirement : Requirement
  /-- When a conditional field is required, in prose. -/
  conditionText : Option String := none
  /-- When a conditional field is required. -/
  condition : Option Condition := none
  /-- Where the value stands in a record. -/
  recordPath : Option String := none
  /-- A pattern that the value matches. -/
  pattern : Option String := none
  /-- The greatest length of the value. -/
  maxLength : Option Nat := none
  /-- The least length of the value. -/
  minLength : Option Nat := none
  /-- The values that are allowed; an empty list allows all. -/
  allowedValues : Option (List String) := none
  /-- The report types to which the field belongs. -/
  reportTypes : Option (List String) := none
  deriving Repr

namespace Field

/-- The field of an id without constraints. -/
def new (id : String) (requirement : Requirement) : Field := { id, name := id, requirement }

/-- The path at which the value of the field is looked up: its own path unless that is
blank, else its id. -/
def lookupPath (f : Field) : String :=
  match f.recordPath with
  | some path => if Text.isBlank path then f.id else path
  | none => f.id

/-- Whether the field belongs to a report type. -/
def appliesTo (f : Field) (reportType : String) : Bool := inScope f.reportTypes reportType

/-- The values that the field allows, if it limits them. -/
def valueList? (f : Field) : Option (List String) :=
  f.allowedValues.filter fun values => !values.isEmpty

/-- Whether the value of the field obeys any constraint. -/
def hasConstraints (f : Field) : Bool :=
  f.pattern.isSome || f.maxLength.isSome || f.minLength.isSome || f.valueList?.isSome

/-! ### Wire form -/

/-- What was read of a field. -/
structure Draft where
  /-- The id. -/
  id : Option String := none
  /-- The name. -/
  name : Option String := none
  /-- The description. -/
  description : Option (Option String) := none
  /-- The category. -/
  category : Option (Option String) := none
  /-- The kind of data. -/
  dataType : Option (Option String) := none
  /-- The requirement. -/
  requirement : Option Requirement := none
  /-- The condition in prose. -/
  conditionText : Option (Option String) := none
  /-- The condition. -/
  condition : Option (Option Condition) := none
  /-- The path. -/
  recordPath : Option (Option String) := none
  /-- The pattern. -/
  pattern : Option (Option String) := none
  /-- The greatest length. -/
  maxLength : Option (Option Nat) := none
  /-- The least length. -/
  minLength : Option (Option Nat) := none
  /-- The allowed values. -/
  allowedValues : Option (Option (List String)) := none
  /-- The scope. -/
  reportTypes : Option (Option (List String)) := none

open Decoder in
/-- The members of a field. -/
def slots : List (Slot Draft) :=
  [slot "field_id" true string (·.id) fun s a => { s with id := some a },
   slot "name" false string (·.name) fun s a => { s with name := some a },
   slot "description" false (optional string) (·.description)
     fun s a => { s with description := some a },
   slot "category" false (optional string) (·.category)
     fun s a => { s with category := some a },
   slot "data_type" false (optional string) (·.dataType)
     fun s a => { s with dataType := some a },
   slot "requirement" true (Decoder.name Requirement.wireNames) (·.requirement)
     fun s a => { s with requirement := some a },
   slot "condition" false (optional string) (·.conditionText)
     fun s a => { s with conditionText := some a },
   slot "condition_expr" false (optional Condition.decoder) (·.condition)
     fun s a => { s with condition := some a },
   slot "cdm_path" false (optional string) (·.recordPath)
     fun s a => { s with recordPath := some a },
   slot "pattern" false (optional string) (·.pattern)
     fun s a => { s with pattern := some a },
   slot "max_length" false (optional count) (·.maxLength)
     fun s a => { s with maxLength := some a },
   slot "min_length" false (optional count) (·.minLength)
     fun s a => { s with minLength := some a },
   slot "enum_values" false (optional (list string)) (·.allowedValues)
     fun s a => { s with allowedValues := some a },
   slot "report_types" false (optional (list string)) (·.reportTypes)
     fun s a => { s with reportTypes := some a }]

open Decoder in
/-- The field once its members were read. -/
def Draft.finish (s : Draft) : Except DecodeError Field := do
  let id ← require "field_id" s.id
  let requirement ← require "requirement" s.requirement
  return {
    id, requirement
    name := s.name.getD ""
    description := s.description.join
    category := s.category.join
    dataType := s.dataType.join
    conditionText := s.conditionText.join
    condition := s.condition.join
    recordPath := s.recordPath.join
    pattern := s.pattern.join
    maxLength := s.maxLength.join
    minLength := s.minLength.join
    allowedValues := s.allowedValues.join
    reportTypes := s.reportTypes.join }

/-- The decoder of fields. -/
def decoder : Decoder Field := Decoder.structured "FieldSpec" slots {} Draft.finish

/-- The wire form of a field. -/
def toJson (f : Field) : Json :=
  .obj (Json.optionalText "category" f.category ++
    Json.optionalText "cdm_path" f.recordPath ++
    Json.optionalText "condition" f.conditionText ++
    Json.optionalMember "condition_expr" (f.condition.map Condition.toJson) ++
    Json.optionalText "data_type" f.dataType ++
    Json.optionalText "description" f.description ++
    Json.optionalTexts "enum_values" f.allowedValues ++
    [("field_id", .str f.id)] ++
    Json.optionalCount "max_length" f.maxLength ++
    Json.optionalCount "min_length" f.minLength ++
    [("name", .str f.name)] ++
    Json.optionalText "pattern" f.pattern ++
    Json.optionalTexts "report_types" f.reportTypes ++
    [("requirement", .str f.requirement.name)])

end Field

end RegulatoryReporting
