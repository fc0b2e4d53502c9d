import RegulatoryReporting.Comparison.Order
import RegulatoryReporting.Condition.Basic
import RegulatoryReporting.Path.Syntax
import RegulatoryReporting.Pattern.Compilation

/-!
# Evaluation of Conditions

A condition is evaluated on a record under a limit on its nesting. Two things can go
wrong: a subtree lies deeper than the limit, or a leaf matches against a text that is no
pattern. Conjunction and disjunction look at their operands from left to right and stop
as soon as the answer is known, so a fault behind that point does not matter; a fault that
is met ends the evaluation. `Evaluator.evaluate` fails closed: a condition that cannot be
evaluated does not hold.

A value that is absent (missing, null or blank) is absent for every operator. It satisfies
`ne`, `not_in` and `not_exists` and nothing else.

## Main results

* `Evaluator.evaluate_eq` — what failing closed means.
-/

namespace RegulatoryReporting

/-- Why a condition cannot be evaluated. -/
inductive EvaluationError
  /-- A subtree lies deeper than the limit. -/
  | depthExceeded (maxDepth : Nat)
  /-- A text to match against is no pattern. What the compiler says about it is not kept. -/
  | invalidPattern (pattern : String)
  deriving DecidableEq, Repr

/-- The message for a condition that cannot be evaluated. -/
def EvaluationError.message : EvaluationError → String
  | depthExceeded n => s!"condition nesting exceeds the maximum depth of {n}"
  | invalidPattern pattern => s!"invalid pattern '{pattern}'"

/-- A limit on the nesting of conditions, at least one. -/
structure Evaluator where
  /-- How deep a condition may be nested. -/
  maxDepth : Nat
  /-- The root lies at depth one. -/
  one_le : 1 ≤ maxDepth := by omega
  deriving DecidableEq, Repr

namespace Evaluator

/-- The evaluator with the given limit, or with one if the limit is zero. -/
def ofLimit (n : Nat) : Evaluator := ⟨max n 1, Nat.le_max_right n 1⟩

/-- The limit where none is given. -/
def defaultLimit : Nat := 64

instance : Inhabited Evaluator := ⟨ofLimit defaultLimit⟩

end Evaluator

/-! ### Leaves -/

/-- The value at a path of a record, unless it is absent. -/
def presentValue? (record : Json) (path : String) : Option Json :=
  (resolve record path).filter fun v => !Json.isAbsent (some v)

/-- Whether an order satisfies a comparison. -/
def Operator.admits (op : Operator) (order : Option Ordering) : Bool :=
  match op with
  | .eq => order == some .eq
  | .ne => order != some .eq
  | .gt => order == some .gt
  | .lt => order == some .lt
  | .gte => order == some .gt || order == some .eq
  | .lte => order == some .lt || order == some .eq
  | _ => false

/-- Whether a value is loosely equal to a member of a list; what is no list has none. -/
def isMember (v : Json) (list : Option Json) : Bool :=
  match list with
  | some (.arr members) => members.any fun w => v.looselyEqual w
  | _ => false

/-- Whether a value matches the pattern of a leaf, given what texts compile to. What has no
text matches nothing. -/
def matchesBy (compile : String → Option Pattern) (pattern : Option String)
    (actual : Option Json) : Except EvaluationError Bool :=
  match pattern, actual.bind Json.scalarText? with
  | some pattern, some text =>
    match compile pattern with
    | some p => .ok (p.isMatch text)
    | none => .error (.invalidPattern pattern)
  | _, _ => .ok false

/-- Whether a value matches the pattern of a leaf. -/
def matchesPattern (pattern : Option String) (actual : Option Json) :
    Except EvaluationError Bool :=
  matchesBy Pattern.ofText? pattern actual

/-- Whether a leaf holds of the value of its field, if that is present. -/
def ConditionLeaf.holdsOf (l : ConditionLeaf) (actual : Option Json) :
    Except EvaluationError Bool :=
  match l.operator with
  | .exists => .ok actual.isSome
  | .notExists => .ok actual.isNone
  | .in => .ok (match actual with
    | none => false
    | some v => isMember v l.value)
  | .notIn => .ok (match actual with
    | none => true
    | some v => !isMember v l.value)
  | .matches => matchesPattern l.pattern? actual
  | op => .ok (match actual, l.value with
    | some v, some w => op.admits (v.compare w)
    | _, _ => op == .ne)

/-- Whether a leaf holds of a record. -/
def ConditionLeaf.holds (l : ConditionLeaf) (record : Json) : Except EvaluationError Bool :=
  l.holdsOf (presentValue? record l.field)

/-! ### Trees -/

namespace Evaluator

mutual

/-- Evaluate a subtree whose root lies at a depth. -/
def evaluateAt (e : Evaluator) (record : Json) (depth : Nat) :
    Condition → Except EvaluationError Bool
  | .leaf l =>
    if e.maxDepth < depth then .error (.depthExceeded e.maxDepth) else l.holds record
  | .and children =>
    if e.maxDepth < depth then .error (.depthExceeded e.maxDepth)
    else evaluateAll e record (depth + 1) children
  | .or children =>
    if e.maxDepth < depth then .error (.depthExceeded e.maxDepth)
    else evaluateAny e record (depth + 1) children
  | .not inner =>
    if e.maxDepth < depth then .error (.depthExceeded e.maxDepth)
    else (evaluateAt e record (depth + 1) inner).map (!·)

/-- Whether all subtrees hold, up to the first that does not. -/
def evaluateAll (e : Evaluator) (record : Json) (depth : Nat) :
    List Condition → Except EvaluationError Bool
  | [] => .ok true
  | c :: cs =>
    match evaluateAt e record depth c with
    | .error fault => .error fault
    | .ok false => .ok false
    | .ok true => evaluateAll e record depth cs

/-- Whether some subtree holds, up to the first that does. -/
def evaluateAny (e : Evaluator) (record : Json) (depth : Nat) :
    List Condition → Except EvaluationError Bool
  | [] => .ok false
  | c :: cs =>
    match evaluateAt e record depth c with
    | .error fault => .error fault
    | .ok true => .ok true
    | .ok false => evaluateAny e record depth cs

end

/-- Evaluate a condition on a record, or say why that is impossible. -/
def evaluate? (e : Evaluator) (c : Condition) (record : Json) :
    Except EvaluationError Bool :=
  evaluateAt e record 1 c

/-- Whether a condition holds of a record; one that cannot be evaluated does not. -/
def evaluate (e : Evaluator) (c : Condition) (record : Json) : Bool :=
  match e.evaluate? c record with
  | .ok b => b
  | .error _ => false

/-- A condition holds exactly when its evaluation succeeds with true. -/
theorem evaluate_eq (e : Evaluator) (c : Condition) (record : Json) :
    e.evaluate c record = true ↔ e.evaluate? c record = .ok true := by
  unfold evaluate
  cases e.evaluate? c record <;> simp

end Evaluator

end RegulatoryReporting
