import RegulatoryReporting.Text.Case

/-!
# Operators

The predicates that a condition can ask of one field. Six of them compare the value of
the field with another value, two ask whether it is a member of a list, two whether it is
there at all, and one whether it matches a pattern.
-/

namespace RegulatoryReporting

/-- A predicate on the value of a field. -/
inductive Operator
  | eq
  | ne
  | gt
  | lt
  | gte
  | lte
  | in
  | notIn
  /-- The field has a value. -/
  | exists
  /-- The field has no value. -/
  | notExists
  /-- The text of the field matches a pattern. -/
  | matches
  deriving DecidableEq, Repr

namespace Operator

/-- The name of the operator. -/
def name : Operator → String
  | eq => "eq"
  | ne => "ne"
  | gt => "gt"
  | lt => "lt"
  | gte => "gte"
  | lte => "lte"
  | .in => "in"
  | notIn => "not_in"
  | .exists => "exists"
  | notExists => "not_exists"
  | .matches => "matches"

/-- Every operator, in the order of their declaration. -/
def all : List Operator :=
  [eq, ne, gt, lt, gte, lte, .in, notIn, .exists, notExists, .matches]

/-- The operators under their names. -/
def wireNames : List (String × Operator) := all.map fun op => (op.name, op)

/-- Whether the operator compares with one value. -/
def isComparison : Operator → Bool
  | eq | ne | gt | lt | gte | lte => true
  | _ => false

/-- Whether the operator asks for membership in a list. -/
def isMembership : Operator → Bool
  | .in | notIn => true
  | _ => false

/-- Whether the operator asks only for presence. -/
def isPresence : Operator → Bool
  | .exists | notExists => true
  | _ => false

/-- Read the name of an operator, in any case and with blanks around it. -/
def ofName (s : String) : Except UnknownName Operator :=
  lookupName "operator" wireNames (Text.normalizeName s)

end Operator

end RegulatoryReporting
