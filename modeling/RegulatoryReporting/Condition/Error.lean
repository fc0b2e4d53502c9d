import RegulatoryReporting.Condition.Operator

/-!
# Malformed Conditions

Why a node of a condition tree is rejected when it is read. A node is either a leaf, which
names a field, or one of the three combinators, and each kind has its own keys.
-/

namespace RegulatoryReporting

/-- Why a node is not a condition. -/
inductive ConditionError
  /-- The node has none of the keys that tell its kind. -/
  | noKind
  /-- The node has several of the keys that tell its kind. -/
  | severalKinds (keys : List String)
  /-- A combinator over a list has no operands. -/
  | noOperands (combinator : String)
  /-- A leaf has no operator. -/
  | noOperator (field : String)
  /-- A leaf names a blank field. -/
  | blankField
  /-- A comparison has nothing to compare with. -/
  | noValue (field : String) (operator : Operator)
  /-- A membership test has no list. -/
  | noList (field : String) (operator : Operator)
  /-- A match has no pattern text. -/
  | noPattern (field : String)
  /-- A combinator carries a key of a leaf. -/
  | strayKey (key : String)
  deriving DecidableEq, Repr

/-- The message for a malformed condition. -/
def ConditionError.message : ConditionError → String
  | noKind => "condition node has no discriminant (expected one of field, and, or, not)"
  | severalKinds keys =>
    "condition node mixes discriminants: " ++ String.intercalate ", " keys
  | noOperands combinator => s!"'{combinator}' condition has no operands"
  | noOperator field => s!"condition on '{field}' has no operator"
  | blankField => "condition leaf has an empty field path"
  | noValue field operator => s!"operator '{operator.name}' on '{field}' requires a value"
  | noList field operator =>
    s!"operator '{operator.name}' on '{field}' requires an array value"
  | noPattern field => s!"operator 'matches' on '{field}' requires a string pattern"
  | strayKey key => s!"'{key}' is only valid on a field condition"

end RegulatoryReporting
