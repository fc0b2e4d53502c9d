import RegulatoryReporting.Condition.Evaluation
import RegulatoryReporting.Package.Field

/-!
# Effective Requirements

What a field demands of one record under one report type. A conditional field follows its
condition; without one nothing can be said, and the field is neither required nor not
required. A condition that cannot be evaluated counts as one that does not hold.
-/

namespace RegulatoryReporting

/-- Whether a value must be there. -/
inductive RequiredState
  | required
  | notRequired
  /-- A conditional field without a condition. -/
  | unresolvable
  deriving DecidableEq, Repr

/-- What a field demands of a record under a report type. -/
inductive EffectiveRequirement
  /-- The field belongs to other report types. -/
  | notApplicable
  | mandatory
  /-- The condition of the field holds. -/
  | conditionalRequired
  /-- The condition of the field does not hold. -/
  | conditionalNotRequired
  /-- The field is conditional and has no condition. -/
  | unresolvable
  | optional
  deriving DecidableEq, Repr

namespace EffectiveRequirement

/-- Whether the field belongs to the report type. -/
def isApplicable : EffectiveRequirement → Bool
  | notApplicable => false
  | _ => true

/-- Whether a value must be there. -/
def state : EffectiveRequirement → RequiredState
  | mandatory | conditionalRequired => .required
  | unresolvable => .unresolvable
  | notApplicable | conditionalNotRequired | optional => .notRequired

/-- Why a field demands what it does. -/
def reason : EffectiveRequirement → String
  | notApplicable => "field does not apply to this report type"
  | mandatory => "field is mandatory"
  | conditionalRequired => "condition holds"
  | conditionalNotRequired => "condition does not hold"
  | unresolvable => "conditional field has no structured condition"
  | optional => "field is optional"

end EffectiveRequirement

/-- What a field demands of a record under a report type. -/
def Field.effectiveRequirement (f : Field) (e : Evaluator) (reportType : String)
    (record : Json) : EffectiveRequirement :=
  if f.appliesTo reportType then
    match f.requirement, f.condition with
    | .mandatory, _ => .mandatory
    | .optional, _ => .optional
    | .conditional, none => .unresolvable
    | .conditional, some c =>
      if e.evaluate c record then .conditionalRequired else .conditionalNotRequired
  else .notApplicable

end RegulatoryReporting
