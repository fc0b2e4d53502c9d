import RegulatoryReporting.Condition.Operator
import RegulatoryReporting.Json.Value
import RegulatoryReporting.Text.WhiteSpace

/-!
# Conditions

A condition is a tree of predicates over a record. A leaf asks one operator of one field;
the inner nodes are conjunction, disjunction and negation.

A tree that is read from a package is well formed (`Condition.WellFormed`): no empty
combinator, no blank field, and at every leaf the value that its operator demands. A tree
that is put together from its constructors need not be.
-/

namespace RegulatoryReporting

/-- One predicate on the value of one field. -/
structure ConditionLeaf where
  /-- The path of the field in the record. -/
  field : String
  /-- What is asked. -/
  operator : Operator
  /-- What the value is compared with; presence tests have none. -/
  value : Option Json
  deriving Repr

/-- The text of the pattern that a leaf matches against. -/
def ConditionLeaf.pattern? (l : ConditionLeaf) : Option String :=
  match l.operator, l.value with
  | .matches, some (.str pattern) => some pattern
  | _, _ => none

/-- A tree of predicates over a record. -/
inductive Condition
  | leaf (l : ConditionLeaf)
  /-- Every child holds. -/
  | and (children : List Condition)
  /-- Some child holds. -/
  | or (children : List Condition)
  /-- The child does not hold. -/
  | not (inner : Condition)
  deriving Repr, Inhabited

namespace Condition

/-- A leaf that tests for presence. -/
def fieldExists (field : String) : Condition := leaf ⟨field, .exists, none⟩

/-- A leaf that tests for absence. -/
def fieldNotExists (field : String) : Condition := leaf ⟨field, .notExists, none⟩

mutual

/-- The nesting depth; a leaf has depth one. -/
def depth : Condition → Nat
  | leaf _ => 1
  | and children => 1 + childrenDepth children
  | or children => 1 + childrenDepth children
  | not inner => 1 + depth inner

/-- The greatest depth of several trees, zero for none. -/
def childrenDepth : List Condition → Nat
  | [] => 0
  | c :: cs => max (depth c) (childrenDepth cs)

end

mutual

/-- The leaves from left to right. -/
def leaves : Condition → List ConditionLeaf
  | leaf l => [l]
  | and children => childrenLeaves children
  | or children => childrenLeaves children
  | not inner => leaves inner

/-- The leaves of several trees from left to right. -/
def childrenLeaves : List Condition → List ConditionLeaf
  | [] => []
  | c :: cs => leaves c ++ childrenLeaves cs

end

/-- The paths that a condition reads, from left to right. -/
def fields (c : Condition) : List String := c.leaves.map (·.field)

/-- The texts of the patterns that a condition matches against. -/
def patterns (c : Condition) : List String := c.leaves.filterMap (·.pattern?)

end Condition

/-! ### Well-formed conditions -/

/-- Whether a value is what an operator demands. -/
def Operator.accepts (op : Operator) (value : Option Json) : Bool :=
  match op, value with
  | .exists, none | .notExists, none => true
  | .exists, some _ | .notExists, some _ => false
  | .in, some (.arr _) | .notIn, some (.arr _) => true
  | .in, _ | .notIn, _ => false
  | .matches, some (.str _) => true
  | .matches, _ => false
  | _, some .null | _, none => false
  | _, some _ => true

/-- A leaf with a field and the value that its operator demands. -/
def ConditionLeaf.isWellFormed (l : ConditionLeaf) : Bool :=
  !Text.isBlank l.field && l.operator.accepts l.value

/-- A tree without empty combinators whose leaves are well formed. -/
inductive Condition.WellFormed : Condition → Prop
  | leaf {l : ConditionLeaf} (h : l.isWellFormed = true) : WellFormed (.leaf l)
  | and {children : List Condition} (some_child : children ≠ [])
      (each : ∀ c ∈ children, WellFormed c) : WellFormed (.and children)
  | or {children : List Condition} (some_child : children ≠ [])
      (each : ∀ c ∈ children, WellFormed c) : WellFormed (.or children)
  | not {inner : Condition} (h : WellFormed inner) : WellFormed (.not inner)

end RegulatoryReporting
