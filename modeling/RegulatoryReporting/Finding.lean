import RegulatoryReporting.Wire.Decoder

/-!
# Findings

A finding is the outcome of one check of one record: which field or rule it is about, what
kind of check it was, how severe a failure would be, and whether the check passed.
-/

namespace RegulatoryReporting

/-! ### Severity -/

/-- How severe a failed check is. -/
inductive Severity
  | error
  | warning
  | info
  deriving DecidableEq, Repr

namespace Severity

/-- The label of a severity. -/
def label : Severity → String
  | error => "ERROR"
  | warning => "WARNING"
  | info => "INFO"

/-- The place of a severity, the most severe first. -/
def rank : Severity → Nat
  | error => 0
  | warning => 1
  | info => 2

/-- The severities, the most severe first. -/
def all : List Severity := [error, warning, info]

/-- The names under which a severity is written: its label, in capitals or small. -/
def wireNames : List (String × Severity) :=
  [("ERROR", error), ("error", error), ("WARNING", warning), ("warning", warning),
    ("INFO", info), ("info", info)]

/-- Read the name of a severity, in any case and with blanks around it. -/
def ofName (s : String) : Except UnknownName Severity :=
  lookupName "severity"
    [("error", error), ("warning", warning), ("warn", warning), ("info", info)]
    (Text.normalizeName s)

end Severity

/-! ### Codes -/

/-- What kind of check produced a finding. -/
inductive FindingCode
  /-- A mandatory field has no value. -/
  | mandatoryMissing
  /-- A conditional field whose condition holds has no value. -/
  | conditionalMissing
  /-- A required field has a value. -/
  | requiredPresent
  /-- A conditional field has no condition that could be evaluated. -/
  | requirementUnresolvable
  /-- A value violates the pattern of its field, or is no scalar. -/
  | pattern
  /-- A value is too long. -/
  | maxLength
  /-- A value is too short. -/
  | minLength
  /-- A value is not in the list of its field. -/
  | enumValue
  /-- A rule was executed. -/
  | rule
  /-- A rule could not be executed. -/
  | ruleNotAutomated
  /-- The precondition of a rule does not hold. -/
  | ruleNotTriggered
  /-- A key of a uniqueness rule occurred before. -/
  | duplicate
  deriving DecidableEq, Repr

namespace FindingCode

/-- The name of a code. -/
def name : FindingCode → String
  | mandatoryMissing => "mandatory_missing"
  | conditionalMissing => "conditional_missing"
  | requiredPresent => "required_present"
  | requirementUnresolvable => "requirement_unresolvable"
  | pattern => "pattern"
  | maxLength => "max_length"
  | minLength => "min_length"
  | enumValue => "enum_value"
  | rule => "rule"
  | ruleNotAutomated => "rule_not_automated"
  | ruleNotTriggered => "rule_not_triggered"
  | duplicate => "duplicate"

/-- Every code. -/
def all : List FindingCode :=
  [mandatoryMissing, conditionalMissing, requiredPresent, requirementUnresolvable, pattern,
    maxLength, minLength, enumValue, rule, ruleNotAutomated, ruleNotTriggered, duplicate]

/-- The codes under their names. -/
def wireNames : List (String × FindingCode) := all.map fun c => (c.name, c)

end FindingCode

/-! ### Findings -/

/-- The outcome of one check. -/
structure Finding where
  /-- The id of the field or rule that was checked. -/
  subject : String
  /-- What kind of check it was. -/
  code : FindingCode
  /-- How severe a failure is. -/
  severity : Severity
  /-- Whether the check passed. -/
  passed : Bool
  /-- What was found. -/
  message : String
  /-- The path of the record that the finding points at. -/
  path : Option String := none
  deriving DecidableEq, Repr

namespace Finding

/-- Whether the finding is a failure of a severity. -/
def isFailureAt (f : Finding) (s : Severity) : Bool := !f.passed && f.severity == s

/-- What was read of a finding. -/
structure Draft where
  /-- The id of the field or rule. -/
  subject : Option String := none
  /-- The kind of check. -/
  code : Option FindingCode := none
  /-- The severity. -/
  severity : Option Severity := none
  /-- Whether the check passed. -/
  passed : Option Bool := none
  /-- The message. -/
  message : Option String := none
  /-- The path, if the member was read. -/
  path : Option (Option String) := none

open Decoder in
/-- The members of a finding. -/
def slots : List (Slot Draft) :=
  [slot "subject_id" true string (·.subject) fun s a => { s with subject := some a },
   slot "code" true (name FindingCode.wireNames) (·.code) fun s a => { s with code := some a },
   slot "severity" true (name Severity.wireNames) (·.severity)
     fun s a => { s with severity := some a },
   slot "passed" true bool (·.passed) fun s a => { s with passed := some a },
   slot "message" true string (·.message) fun s a => { s with message := some a },
   slot "path" false (optional string) (·.path) fun s a => { s with path := some a }]

open Decoder in
/-- The finding once its members were read. -/
def Draft.finish (s : Draft) : Except DecodeError Finding := do
  let subject ← require "subject_id" s.subject
  let code ← require "code" s.code
  let severity ← require "severity" s.severity
  let passed ← require "passed" s.passed
  let message ← require "message" s.message
  return { subject, code, severity, passed, message, path := s.path.join }

/-- The decoder of findings. -/
def decoder : Decoder Finding := Decoder.structured "Finding" slots {} Draft.finish

/-- The wire form of a finding. -/
def toJson (f : Finding) : Json :=
  .obj ([("code", .str f.code.name), ("message", .str f.message), ("passed", .bool f.passed)] ++
    Json.optionalText "path" f.path ++
    [("severity", .str f.severity.label), ("subject_id", .str f.subject)])

end Finding

end RegulatoryReporting
