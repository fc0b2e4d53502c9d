import RegulatoryReporting.Package.Field
import RegulatoryReporting.Package.Rule

/-!
# Regulation Packages

A package describes one regulation: the report types that it knows, the fields of its
reports and the rules between them. The declared counts are for display; they may differ
from the lists and decide nothing.
-/

namespace RegulatoryReporting

/-! ### Report types -/

/-- A type of report. -/
structure ReportType where
  /-- The code that selects it. -/
  code : String
  /-- Its name, possibly empty. -/
  name : String := ""
  /-- What it reports. -/
  description : Option String := none
  deriving DecidableEq, Repr

namespace ReportType

/-- What was read of a report type. -/
structure Draft where
  /-- The code. -/
  code : Option String := none
  /-- The name. -/
  name : Option String := none
  /-- The description. -/
  description : Option (Option String) := none

open Decoder in
/-- The members of a report type. -/
def slots : List (Slot Draft) :=
  [slot "code" true string (·.code) fun s a => { s with code := some a },
   slot "name" false string (·.name) fun s a => { s with name := some a },
   slot "description" false (optional string) (·.description)
     fun s a => { s with description := some a }]

open Decoder in
/-- The report type once its members were read. -/
def Draft.finish (s : Draft) : Except DecodeError ReportType := do
  let code ← require "code" s.code
  return { code, name := s.name.getD "", description := s.description.join }

/-- The decoder of report types. -/
def decoder : Decoder ReportType :=
  Decoder.structured "ReportTypeSpec" slots {} Draft.finish

/-- The wire form of a report type. -/
def toJson (t : ReportType) : Json :=
  .obj ([("code", .str t.code)] ++ Json.optionalText "description" t.description ++
    [("name", .str t.name)])

end ReportType

/-! ### Packages -/

/-- The description of one regulation. -/
structure Package where
  /-- The id of the package. -/
  id : String
  /-- The code of the regulation. -/
  regulationCode : String
  /-- Its name, possibly empty. -/
  name : String := ""
  /-- Where the regulation is in force. -/
  jurisdiction : Option String := none
  /-- The version of the package. -/
  version : String
  /-- The types of reports. -/
  reportTypes : List ReportType := []
  /-- The fields, in the order in which they are checked. -/
  fields : List Field := []
  /-- The rules, in the order in which they are checked. -/
  rules : List Rule := []
  /-- The declared number of fields. -/
  fieldCount : Option Nat := none
  /-- The declared number of rules. -/
  ruleCount : Option Nat := none
  deriving Repr

namespace Package

/-- The package of an id without contents. -/
def new (id regulationCode version : String) : Package := { id, regulationCode, version }

/-- The first field of an id. -/
def field? (p : Package) (id : String) : Option Field := p.fields.find? (·.id == id)

/-- The first rule of an id. -/
def rule? (p : Package) (id : String) : Option Rule := p.rules.find? (·.id == id)

/-- The first report type whose code is the given one, blanks around the latter and the
case of ASCII letters being ignored. -/
def reportType? (p : Package) (code : String) : Option ReportType :=
  p.reportTypes.find? fun t => Text.asciiCaseEq t.code (Text.trim code)

/-- The codes that a package declares. -/
def reportTypeCodes (p : Package) : List String := p.reportTypes.map (·.code)

/-- Whether the declared counts, where given, are those of the lists. -/
def countsMatch (p : Package) : Bool :=
  p.fieldCount.all (· == p.fields.length) && p.ruleCount.all (· == p.rules.length)

/-! ### Wire form -/

/-- What was read of a package. -/
structure Draft where
  /-- The id. -/
  id : Option String := none
  /-- The code of the regulation. -/
  regulationCode : Option String := none
  /-- The name. -/
  name : Option String := none
  /-- The jurisdiction. -/
  jurisdiction : Option (Option String) := none
  /-- The version. -/
  version : Option String := none
  /-- The report types. -/
  reportTypes : Option (List ReportType) := none
  /-- The fields. -/
  fields : Option (List Field) := none
  /-- The rules. -/
  rules : Option (List Rule) := none
  /-- The declared number of fields. -/
  fieldCount : Option (Option Nat) := none
  /-- The declared number of rules. -/
  ruleCount : Option (Option Nat) := none

open Decoder in
/-- The members of a package. -/
def slots : List (Slot Draft) :=
  [slot "package_id" true string (·.id) fun s a => { s with id := some a },
   slot "regulation_code" true string (·.regulationCode)
     fun s a => { s with regulationCode := some a },
   slot "name" false string (·.name) fun s a => { s with name := some a },
   slot "jurisdiction" false (optional string) (·.jurisdiction)
     fun s a => { s with jurisdiction := some a },
   slot "version" true string (·.version) fun s a => { s with version := some a },
   slot "report_types" true (list ReportType.decoder) (·.reportTypes)
     fun s a => { s with reportTypes := some a },
   slot "fields" false (list Field.decoder) (·.fields) fun s a => { s with fields := some a },
   slot "validation_rules" false (list Rule.decoder) (·.rules)
     fun s a => { s with rules := some a },
   slot "field_count" false (optional count) (·.fieldCount)
     fun s a => { s with fieldCount := some a },
   slot "validation_rule_count" false (optional count) (·.ruleCount)
     fun s a => { s with ruleCount := some a }]

open Decoder in
/-- The package once its members were read. -/
def Draft.finish (s : Draft) : Except DecodeError Package := do
  let id ← require "package_id" s.id
  let regulationCode ← require "regulation_code" s.regulationCode
  let version ← require "version" s.version
  let reportTypes ← require "report_types" s.reportTypes
  return {
    id, regulationCode, version, reportTypes
    name := s.name.getD ""
    jurisdiction := s.jurisdiction.join
    fields := s.fields.getD []
    rules := s.rules.getD []
    fieldCount := s.fieldCount.join
    ruleCount := s.ruleCount.join }

/-- The decoder of packages. -/
def decoder : Decoder Package :=
  Decoder.structured "RegulationPackage" slots {} Draft.finish

/-- The wire form of a package. -/
def toJson (p : Package) : Json :=
  .obj (Json.optionalCount "field_count" p.fieldCount ++
    [("fields", .arr (p.fields.map Field.toJson))] ++
    Json.optionalText "jurisdiction" p.jurisdiction ++
    [("name", .str p.name), ("package_id", .str p.id),
      ("regulation_code", .str p.regulationCode),
      ("report_types", .arr (p.reportTypes.map ReportType.toJson))] ++
    Json.optionalCount "validation_rule_count" p.ruleCount ++
    [("validation_rules", .arr (p.rules.map Rule.toJson)), ("version", .str p.version)])

end Package

end RegulatoryReporting
