import RegulatoryReporting.Condition.Basic
import RegulatoryReporting.Wire.Decoder

/-!
# The Wire Form of Conditions

A node of a condition is an object that tells its kind by the key that it carries:

```
field, operator, value      a leaf
and                         a list of nodes
or                          a list of nodes
not                         a node
```

Exactly one of `field`, `and`, `or` and `not` is present; null counts as missing. The
value of a presence test is dropped, so a condition that was decoded is well formed and
writing it gives it back.
-/

namespace RegulatoryReporting

/-- The keys of a node. -/
inductive ConditionKey
  | field
  | operator
  | value
  | and
  | or
  | not
  deriving DecidableEq, Repr

namespace ConditionKey

/-- The key as it is written. -/
def name : ConditionKey → String
  | field => "field"
  | operator => "operator"
  | value => "value"
  | .and => "and"
  | .or => "or"
  | .not => "not"

/-- The keys in the order of the array form. -/
def all : List ConditionKey := [field, operator, value, .and, .or, .not]

/-- The key that a text names. -/
def ofName? (s : String) : Option ConditionKey := all.find? (·.name == s)

end ConditionKey

/-- A node before its kind is known. The outer option tells whether a key was read, the
inner one whether it holds something other than null. -/
structure ConditionDraft where
  /-- The field of a leaf. -/
  field : Option (Option String) := none
  /-- The operator of a leaf. -/
  operator : Option (Option Operator) := none
  /-- The value of a leaf. -/
  value : Option (Option Json) := none
  /-- The operands of a conjunction. -/
  and : Option (Option (List Condition)) := none
  /-- The operands of a disjunction. -/
  or : Option (Option (List Condition)) := none
  /-- The operand of a negation. -/
  not : Option (Option Condition) := none

namespace ConditionDraft

/-- Whether a key was read. -/
def has (s : ConditionDraft) : ConditionKey → Bool
  | .field => s.field.isSome
  | .operator => s.operator.isSome
  | .value => s.value.isSome
  | .and => s.and.isSome
  | .or => s.or.isSome
  | .not => s.not.isSome

/-- Read the document under a key. How it reads as operands and as an operand is given,
because a node is read through its draft. -/
def fill (m : Medium) (key : ConditionKey) (d : Document)
    (operands : Unit → Except DecodeError (Option (List Condition)))
    (operand : Unit → Except DecodeError (Option Condition)) (s : ConditionDraft) :
    Except DecodeError ConditionDraft :=
  match key with
  | .field =>
    (Decoder.optional Decoder.string m d).map fun a => { s with field := some a }
  | .operator =>
    (Decoder.optional (Decoder.name Operator.wireNames) m d).map
      fun a => { s with operator := some a }
  | .value => (Decoder.optional Decoder.value m d).map fun a => { s with value := some a }
  | .and => (operands ()).map fun a => { s with and := some a }
  | .or => (operands ()).map fun a => { s with or := some a }
  | .not => (operand ()).map fun a => { s with not := some a }

/-- Read a member of the object form. A key may not occur twice, other keys are skipped. -/
def fillMember (m : Medium) (key : Option String) (d : Document)
    (operands : Unit → Except DecodeError (Option (List Condition)))
    (operand : Unit → Except DecodeError (Option Condition)) (s : ConditionDraft) :
    Except DecodeError ConditionDraft :=
  match key with
  | none => .error .malformed
  | some name =>
    match ConditionKey.ofName? name with
    | none => if d.isWellFormed then .ok s else .error .malformed
    | some key =>
      if s.has key then .error (.duplicateField name)
      else s.fill m key d operands operand

/-- The leaf over a field. -/
def toLeaf (field : String) (operator : Option Operator) (value : Option Json) :
    Except ConditionError ConditionLeaf :=
  if Text.isBlank field then .error .blankField
  else
    match operator with
    | none => .error (.noOperator field)
    | some op =>
      let given := value.filter fun v => match v with
        | .null => false
        | _ => true
      if op.isComparison && given.isNone then .error (.noValue field op)
      else if op.isMembership && !(match given with | some (.arr _) => true | _ => false) then
        .error (.noList field op)
      else if op == .matches && !(match given with | some (.str _) => true | _ => false) then
        .error (.noPattern field)
      else .ok ⟨field, op, if op.isPresence then none else given⟩

/-- The keys among those that tell the kind of a node which hold something. -/
def kinds (s : ConditionDraft) : List ConditionKey :=
  [(ConditionKey.field, s.field.join.isSome), (.and, s.and.join.isSome),
    (.or, s.or.join.isSome), (.not, s.not.join.isSome)].filterMap
    fun (key, present) => if present then some key else none

/-- The operands of a combinator, of which there is at least one. -/
def toOperands (key : ConditionKey) (children : List Condition) :
    Except ConditionError (List Condition) :=
  if children.isEmpty then .error (.noOperands key.name) else .ok children

/-- The node once all of it was read. -/
def toCondition (s : ConditionDraft) : Except ConditionError Condition :=
  match s.kinds with
  | [] => .error .noKind
  | [_] =>
    match s.field.join with
    | some field => (toLeaf field s.operator.join s.value.join).map .leaf
    | none =>
      if s.operator.join.isSome then .error (.strayKey ConditionKey.operator.name)
      else if s.value.join.isSome then .error (.strayKey ConditionKey.value.name)
      else
        match s.and.join, s.or.join, s.not.join with
        | some children, _, _ => (toOperands .and children).map .and
        | none, some children, _ => (toOperands .or children).map .or
        | none, none, some inner => .ok (.not inner)
        | none, none, none => .error .noKind
  | keys => .error (.severalKinds (keys.map (·.name)))

/-- The node, its error being a decoding error. -/
def finish (s : ConditionDraft) : Except DecodeError Condition :=
  s.toCondition.mapError .condition

end ConditionDraft

namespace Condition

/-- Whether a document is null. -/
def isNull : Document → Bool
  | .null => true
  | _ => false

mutual

/-- Read a node. -/
def decode (m : Medium) : Document → Except DecodeError Condition
  | .object members => do
    let s ← decodeMembers m members {}
    s.finish
  | .array items => do
    let s ← decodeItems m items.length ConditionKey.all items {}
    s.finish
  | d => .error (Decoder.mismatch "struct RawCondition" d)

/-- Read the operands of a combinator, null counting as missing. -/
def decodeOperands (m : Medium) : Document → Except DecodeError (Option (List Condition))
  | .null => .ok none
  | .array items => (decodeList m items).map some
  | d => .error (Decoder.mismatch "a sequence" d)

/-- Read nodes in order. -/
def decodeList (m : Medium) : List Document → Except DecodeError (List Condition)
  | [] => .ok []
  | d :: ds => do
    let c ← decode m d
    let cs ← decodeList m ds
    return c :: cs

/-- Read the members of the object form. -/
def decodeMembers (m : Medium) :
    List (Option String × Document) → ConditionDraft → Except DecodeError ConditionDraft
  | [], s => .ok s
  | (key, d) :: rest, s => do
    let s ← s.fillMember m key d (fun _ => decodeOperands m d)
      (fun _ => if isNull d then .ok none else (decode m d).map some)
    decodeMembers m rest s

/-- Read the items of the array form under the given keys. -/
def decodeItems (m : Medium) (total : Nat) :
    List ConditionKey → List Document → ConditionDraft → Except DecodeError ConditionDraft
  | _, [], s => .ok s
  | [], _ :: _, _ =>
    .error (match m with
      | .tree => .invalidLength total "fewer elements in array"
      | .text => .malformed)
  | key :: keys, d :: ds, s => do
    let s ← s.fill m key d (fun _ => decodeOperands m d)
      (fun _ => if isNull d then .ok none else (decode m d).map some)
    decodeItems m total keys ds s

end

/-- The decoder of conditions. -/
def decoder : Decoder Condition := fun m d => decode m d

/-- Read a condition from a value. -/
def ofJson (v : Json) : Except DecodeError Condition := decoder.ofValue v

/-- Read a condition from a text. -/
def ofText (s : String) : Except DecodeError Condition := decoder.ofText s

/-! ### Writing -/

/-- The members of a leaf, in the order of their keys. -/
def leafMembers (l : ConditionLeaf) : List (String × Json) :=
  [("field", .str l.field), ("operator", .str l.operator.name)] ++
    (match l.value with
    | some v => [("value", v)]
    | none => [])

mutual

/-- The wire form of a condition. -/
def toJson : Condition → Json
  | leaf l => .obj (leafMembers l)
  | and children => .obj [("and", .arr (listToJson children))]
  | or children => .obj [("or", .arr (listToJson children))]
  | not inner => .obj [("not", toJson inner)]

/-- The wire forms of several conditions. -/
def listToJson : List Condition → List Json
  | [] => []
  | c :: cs => toJson c :: listToJson cs

end

end Condition

end RegulatoryReporting
