import RegulatoryReporting.Json.Printer
import RegulatoryReporting.Json.Reader
import RegulatoryReporting.Wire.Error

/-!
# Decoders

A decoder turns a document into a value of a type or says why it cannot. It visits the
document in order and stops at the first cause, so of two faults the earlier one is
reported; a missing member is noticed when its object ends.

The same decoder serves a tree and a text. The two differ where a name is expected (a text
that holds neither a string nor an object there is malformed, a tree has a value of the
wrong type) and after the last item that an array form has room for. `Medium` tells which
of the two is decoded.

A structure is decoded through its *slots*, one for each member, in the order of its
declaration. It may also be written as an array of its members in that order, of which
the optional ones at the end may be missing. Unknown members are skipped.
-/

namespace RegulatoryReporting

/-- What is being decoded: a tree of values or a text. -/
inductive Medium
  | tree
  | text
  deriving DecidableEq, Repr

/-! ### Results -/

namespace Except

/-- A result under a function is a value exactly when it is the function of one. -/
theorem map_eq_ok_iff {ε α β : Type} {x : Except ε α} {f : α → β} {b : β} :
    x.map f = .ok b ↔ ∃ a, x = .ok a ∧ f a = b := by
  cases x <;> simp [Except.map]

/-- Two steps give a value exactly when the first gives one on which the second does. -/
theorem bind_eq_ok_iff {ε α β : Type} {x : Except ε α} {f : α → Except ε β} {b : β} :
    x >>= f = .ok b ↔ ∃ a, x = .ok a ∧ f a = .ok b := by
  cases x <;> simp [bind, Except.bind]

/-- Another error does not make a result a value. -/
theorem mapError_eq_ok_iff {ε δ α : Type} {x : Except ε α} {f : ε → δ} {a : α} :
    x.mapError f = .ok a ↔ x = .ok a := by
  cases x with
  | error e => constructor <;> intro h <;> cases h
  | ok b => constructor <;> intro h <;> exact congrArg Except.ok (Except.ok.inj h)

end Except

/-- A reader of documents. -/
abbrev Decoder (α : Type) := Medium → Document → Except DecodeError α

namespace Decoder

/-! ### Single values -/

/-- How a value is called in a message, if it stands for a value. -/
def describe? : Document → Option String
  | .null => some "null"
  | .bool b => some (if b then "boolean `true`" else "boolean `false`")
  | .number (.int n) => some s!"integer `{n}`"
  | .number (.float x) => some s!"floating point `{x.text}`"
  | .text s => some ("string " ++ Text.quoted s)
  | .array _ => some "sequence"
  | .object _ => some "map"
  | .refused => none
  | .broken => none
  | .misplaced _ => none

/-- The error of a document that is not of the expected type. -/
def mismatch (expected : String) (d : Document) : DecodeError :=
  match describe? d with
  | some found => .invalidType found expected
  | none => .malformed

/-- A string. -/
def string : Decoder String
  | _, .text s => .ok s
  | _, d => .error (mismatch "a string" d)

/-- A truth value. -/
def bool : Decoder Bool
  | _, .bool b => .ok b
  | _, d => .error (mismatch "a boolean" d)

/-- A natural number of 64 bits. -/
def count : Decoder Nat
  | _, .number (.int n) =>
    if n < 0 then .error (.invalidValue s!"integer `{n}`" "usize") else .ok n.toNat
  | _, d => .error (mismatch "usize" d)

/-- Any value. -/
def value : Decoder Json
  | _, d => match d.toValue? with
    | some v => .ok v
    | none => .error .malformed

/-- A value that may be missing; null counts as missing. -/
def optional (decode : Decoder α) : Decoder (Option α)
  | _, .null => .ok none
  | m, d => (decode m d).map some

/-- Any value is read exactly if the document can be used as a whole. -/
theorem value_eq_ok_iff {m : Medium} {d : Document} {v : Json} :
    value m d = .ok v ↔ d.toValue? = some v := by
  rw [value]
  cases d.toValue? <;> simp

/-- A value that may be missing is there exactly if it is not null and can be read. -/
theorem optional_eq_ok_some_iff {decode : Decoder α} {m : Medium} {d : Document} {a : α} :
    optional decode m d = .ok (some a) ↔ d ≠ .null ∧ decode m d = .ok a := by
  cases d <;> simp [optional, Except.map_eq_ok_iff]

/-- A list. -/
def list (decode : Decoder α) : Decoder (List α)
  | m, .array items => items.mapM (decode m)
  | _, d => .error (mismatch "a sequence" d)

/-- The entries of a table, read in order after those in `entries`. -/
def tableEntries (decode : Decoder α) (m : Medium) :
    List (Option String × Document) → List (String × α) → Except DecodeError (List (String × α))
  | [], entries => .ok entries
  | (none, _) :: _, _ => .error .malformed
  | (some key, d) :: rest, entries => do
    let a ← decode m d
    tableEntries decode m rest (Ordered.insertEntry key a entries)

/-- A table from keys to values, in the order of the keys. -/
def table (decode : Decoder α) : Decoder (List (String × α))
  | m, .object members => tableEntries decode m members []
  | _, d => .error (mismatch "a map" d)

/-! ### Names -/

/-- One of a list of names. -/
def variant (names : List (String × α)) (s : String) : Except DecodeError α :=
  match names.lookup s with
  | some a => .ok a
  | none => .error (.unknownVariant s (names.map (·.1)))

/-- The null that may stand under a name in an object. -/
def unit : Decoder Unit
  | _, .null => .ok ()
  | _, d => .error (mismatch "unit" d)

/-- One of a list of names, as a string or as the only key of an object over null. -/
def name (names : List (String × α)) : Decoder α
  | _, .text s => variant names s
  | .tree, .object [(some key, d)] => do
    let a ← variant names key
    unit .tree d
    return a
  | .tree, .object _ => .error (.invalidValue "map" "map with a single key")
  | .tree, d => .error (mismatch "string or map" d)
  | .text, .object ((some key, d) :: rest) => do
    let a ← variant names key
    unit .text d
    if rest.isEmpty then return a else .error .malformed
  | .text, .object ((none, .misplaced d) :: _) => .error (mismatch "variant identifier" d)
  | .text, _ => .error .malformed

/-! ### Structures -/

/-- A member of a structure; `σ` collects what was read of the structure so far. -/
structure Slot (σ : Type) where
  /-- The key of the member. -/
  key : String
  /-- Whether the member must be there. -/
  required : Bool
  /-- Whether the member was read already. -/
  filled : σ → Bool
  /-- Read the member. -/
  fill : Medium → Document → σ → Except DecodeError σ

/-- The slot of a member that is kept in one place of `σ`. -/
def slot (key : String) (required : Bool) (decode : Decoder α) (get : σ → Option α)
    (set : σ → α → σ) : Slot σ where
  key := key
  required := required
  filled s := (get s).isSome
  fill m d s := (decode m d).map (set s)

/-- Read the members of an object in order. -/
def visitMembers (slots : List (Slot σ)) (m : Medium) :
    List (Option String × Document) → σ → Except DecodeError σ
  | [], s => .ok s
  | (none, _) :: _, _ => .error .malformed
  | (some key, d) :: rest, s =>
    match slots.find? (·.key == key) with
    | none => if d.isWellFormed then visitMembers slots m rest s else .error .malformed
    | some slot =>
      if slot.filled s then .error (.duplicateField key)
      else do
        let s ← slot.fill m d s
        visitMembers slots m rest s

/-- Read the items of the array form, `position` of which have been read. -/
def visitItems (name : String) (m : Medium) (total : Nat) :
    Nat → List (Slot σ) → List Document → σ → Except DecodeError σ
  | _, [], [], s => .ok s
  | _, [], _ :: _, _ =>
    .error (match m with
      | .tree => .invalidLength total "fewer elements in array"
      | .text => .malformed)
  | position, slot :: slots, [], s =>
    if slot.required then
      .error (.invalidLength position
        s!"struct {name} with {position + slots.length + 1} elements")
    else visitItems name m total (position + 1) slots [] s
  | position, slot :: slots, d :: ds, s => do
    let s ← slot.fill m d s
    visitItems name m total (position + 1) slots ds s

/-- A structure of the given name: its slots, what is known before any is read, and how
to finish. -/
def structured (name : String) (slots : List (Slot σ)) (empty : σ)
    (finish : σ → Except DecodeError α) : Decoder α
  | m, .object members => do
    let s ← visitMembers slots m members empty
    finish s
  | m, .array items => do
    let s ← visitItems name m items.length 0 slots items empty
    finish s
  | _, d => .error (mismatch s!"struct {name}" d)

/-- A member that must have been read. -/
def require (key : String) (a : Option α) : Except DecodeError α :=
  match a with
  | some a => .ok a
  | none => .error (.missingField key)

/-! ### Sources -/

/-- Decode a value. -/
def ofValue (decode : Decoder α) (v : Json) : Except DecodeError α :=
  decode .tree (.ofValue v)

/-- Decode a text, which holds one value and nothing else. -/
def ofText (decode : Decoder α) (s : String) : Except DecodeError α :=
  let (d, clean) := Document.ofText s
  match decode .text d with
  | .error e => .error e
  | .ok a => if clean then .ok a else .error .malformed

end Decoder

/-- The value of a JSON text. -/
def Json.ofText? (s : String) : Except DecodeError Json :=
  Decoder.value.ofText s

end RegulatoryReporting
