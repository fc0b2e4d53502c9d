/-!
# Batches

The keys that the uniqueness rules of one batch of records have seen. A key belongs to a
rule and is a list of texts, compared text by text and never joined. Each key is kept with
the record that was the first to have it; nothing is ever overwritten.

## Main results

* `Batch.first?_register` — what is known after a registration.
* `Batch.size_register` — a registration adds one key if it is new, else none.
-/

namespace RegulatoryReporting

/-- A key of a uniqueness rule. -/
structure BatchKey where
  /-- The id of the rule. -/
  rule : String
  /-- The texts of its fields. -/
  parts : List String
  deriving DecidableEq, Repr

/-- The keys seen in a batch. -/
structure Batch where
  /-- Each key with the label of the first record that had it. -/
  seen : List (BatchKey × String) := []
  deriving DecidableEq, Repr

namespace Batch

/-- The batch that has seen nothing. -/
def empty : Batch := {}

/-- The record that was the first to have a key. -/
def first? (b : Batch) (key : BatchKey) : Option String := b.seen.lookup key

/-- See a key of a record: the record that had it first, if that is another registration,
and the batch afterwards. -/
def register (b : Batch) (key : BatchKey) (record : String) : Option String × Batch :=
  match b.first? key with
  | some first => (some first, b)
  | none => (none, { seen := (key, record) :: b.seen })

/-- The number of different keys. -/
def size (b : Batch) : Nat := b.seen.length

/-- Whether nothing was seen. -/
def isEmpty (b : Batch) : Bool := b.size == 0

/-- A registration answers with the record that had the key before. -/
@[simp] theorem register_fst (b : Batch) (key : BatchKey) (record : String) :
    (b.register key record).1 = b.first? key := by
  unfold register
  cases h : b.first? key <;> rfl

/-- After a registration the key belongs to the record that had it first, and every other
key to the record to which it belonged. -/
theorem first?_register (b : Batch) (key other : BatchKey) (record : String) :
    (b.register key record).2.first? other =
      if other = key then some ((b.first? key).getD record) else b.first? other := by
  unfold register
  by_cases h : other = key
  · subst h
    cases hk : b.first? other with
    | some first => simp [hk]
    | none => simp [first?]
  · have hne : (other == key) = false := beq_eq_false_iff_ne.2 h
    cases b.first? key with
    | some first => simp [h]
    | none => simp [first?, List.lookup_cons, hne, h]

/-- A registration adds one key if it is new, else none. -/
theorem size_register (b : Batch) (key : BatchKey) (record : String) :
    (b.register key record).2.size =
      b.size + if (b.first? key).isNone then 1 else 0 := by
  unfold register
  cases b.first? key <;> simp [size]

end Batch

/-- The label of the record at an index of a batch. -/
def indexLabel (index : Nat) : String := s!"#{index}"

end RegulatoryReporting
