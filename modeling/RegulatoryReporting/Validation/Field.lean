import RegulatoryReporting.Finding
import RegulatoryReporting.Validation.Requirement
import RegulatoryReporting.Validator

/-!
# Findings about Fields

A field that belongs to the report type gives at most one finding about its requirement,
and then one for each constraint that its value violates. Constraints speak of the text of
the value without the blanks around it; lengths are counted in characters. A value without
a text, an array or an object, violates every set of constraints and is reported once. A
pattern that does not compile constrains nothing. A value that is absent is not checked.
-/

namespace RegulatoryReporting.Field

/-- How a field is called in messages. -/
def label (f : Field) : String :=
  if f.name.isEmpty || f.name == f.id then f.id else s!"{f.id} ({f.name})"

/-- A finding about the value of a field. -/
def finding (f : Field) (code : FindingCode) (severity : Severity) (passed : Bool)
    (message : String) : Finding :=
  { subject := f.id, code, severity, passed, message, path := some f.lookupPath }

/-- A violated constraint. -/
def violation (f : Field) (code : FindingCode) (message : String) : Finding :=
  f.finding code .error false message

/-! ### Requirement -/

/-- The prose that describes when a conditional field is required. -/
def describedCondition (f : Field) : String :=
  match f.conditionText.filter fun text => !Text.isBlank text with
  | some text => Text.trim text
  | none => "no condition given"

/-- The finding about a required value. -/
def requiredFinding (f : Field) (requirement : EffectiveRequirement) (present : Bool) :
    Finding :=
  if present then
    f.finding .requiredPresent .error true s!"{f.label} is populated ({requirement.reason})"
  else if requirement = .mandatory then
    f.finding .mandatoryMissing .error false s!"{f.label} is mandatory but has no value"
  else
    f.finding .conditionalMissing .error false
      s!"{f.label} is required because its condition holds, but has no value"

/-- The finding about the requirement of a field, if there is anything to find. -/
def requirementFinding? (f : Field) (requirement : EffectiveRequirement) (present : Bool) :
    Option Finding :=
  match requirement.state with
  | .required => some (f.requiredFinding requirement present)
  | .notRequired => none
  | .unresolvable =>
    let described := f.describedCondition
    some (f.finding .requirementUnresolvable .info false
      s!"{f.label} is conditional but its requirement cannot be evaluated: {described}")

/-! ### Constraints -/

/-- The finding for a text that does not match the pattern of a field, given what texts compile
to. -/
def patternFindingBy? (compile : String → Option Pattern) (f : Field) (text : String) :
    Option Finding :=
  f.pattern.bind fun source =>
    (compile source).bind fun pattern =>
      if pattern.isMatch text then none
      else some (f.violation .pattern s!"'{text}' does not match pattern {source}")

/-- The finding for a text that does not match the pattern of a field. -/
def patternFinding? (f : Field) (text : String) : Option Finding :=
  f.patternFindingBy? Pattern.ofText? text

/-- The finding for a text that is too long. -/
def maxLengthFinding? (f : Field) (text : String) : Option Finding :=
  f.maxLength.bind fun most =>
    if most < text.length then
      some (f.violation .maxLength s!"length {text.length} exceeds maximum {most}")
    else none

/-- The finding for a text that is too short. -/
def minLengthFinding? (f : Field) (text : String) : Option Finding :=
  f.minLength.bind fun least =>
    if text.length < least then
      some (f.violation .minLength s!"length {text.length} is below minimum {least}")
    else none

/-- The finding for a text that is not among the values of a field. -/
def valueFinding? (f : Field) (text : String) : Option Finding :=
  f.valueList?.bind fun allowed => (notAllowed? allowed text).map (f.violation .enumValue)

/-- The findings for a trimmed text, in order. -/
def textFindings (f : Field) (text : String) : List Finding :=
  (f.patternFinding? text).toList ++ (f.maxLengthFinding? text).toList ++
    (f.minLengthFinding? text).toList ++ (f.valueFinding? text).toList

/-- The findings for a value that is present. -/
def constraintFindings (f : Field) (v : Json) : List Finding :=
  if f.hasConstraints then
    match v.scalarText? with
    | some text => f.textFindings (Text.trim text)
    | none => [f.violation .pattern s!"{f.id} must be a scalar value"]
  else []

/-! ### Findings -/

/-- The findings about a field of a record. -/
def findings (f : Field) (e : Evaluator) (reportType : String) (record : Json) :
    List Finding :=
  let requirement := f.effectiveRequirement e reportType record
  if requirement.isApplicable then
    let value := presentValue? record f.lookupPath
    (f.requirementFinding? requirement value.isSome).toList ++
      (value.toList.flatMap f.constraintFindings)
  else []

end RegulatoryReporting.Field
