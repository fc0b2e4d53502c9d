import RegulatoryReporting.Json.Scalar

/-!
# Record Paths

A path names a place of a record. Each of its segments reads a member of an object; a
segment with a filter or an index goes on into the array that the member holds:

```
counterparty_1.lei
parties[role=REPORTING].lei
parties[0].lei
```

A filter selects the first item whose key holds a scalar of exactly the given text. Where
a member is missing, or a value is not of the kind that a segment reads, the path leads
nowhere: reading never fails.

## Main results

* `resolveSegments_append` — reading along two paths in turn is reading along both joined.
-/

namespace RegulatoryReporting

/-- One step of a path. -/
inductive PathSegment
  /-- The member of an object. -/
  | key (name : String)
  /-- The first item of the array `name` whose `key` holds the text `value`. -/
  | filter (name key value : String)
  /-- The item of the array `name` at `index`. -/
  | index (name : String) (index : Nat)
  deriving DecidableEq, Repr

/-- Whether an item holds a scalar of the given text under a key. -/
def matchesFilter (key value : String) (item : Json) : Bool :=
  (item.get? key).bind Json.scalarText? == some value

/-- The place to which a segment leads. -/
def PathSegment.step : PathSegment → Json → Option Json
  | key name, v => v.get? name
  | filter name k value, v =>
    ((v.get? name).bind Json.items?).bind fun items => items.find? (matchesFilter k value)
  | index name i, v => ((v.get? name).bind Json.items?).bind fun items => items[i]?

/-- The place to which segments lead, one after the other. -/
def resolveSegments : List PathSegment → Json → Option Json
  | [], v => some v
  | segment :: rest, v => (segment.step v).bind (resolveSegments rest)

/-- Reading along two paths in turn is reading along both joined. -/
theorem resolveSegments_append (p q : List PathSegment) (v : Json) :
    resolveSegments (p ++ q) v = (resolveSegments p v).bind (resolveSegments q) := by
  induction p generalizing v with
  | nil => rfl
  | cons segment rest ih =>
    simp only [List.cons_append, resolveSegments]
    cases segment.step v with
    | none => rfl
    | some w => exact ih w

end RegulatoryReporting
