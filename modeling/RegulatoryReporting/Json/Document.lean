import RegulatoryReporting.Json.Value

/-!
# Documents

A document is what a decoder sees: a tree whose members stand in the order in which they
are visited, a key possibly more than once. A value becomes a document without loss
(`Document.ofValue`). A text becomes one even if it is not JSON all the way through: the
document then ends in `broken`, and a decoder that fails earlier reports its own cause
first. A piece of text that is well formed but stands for no value (a number beyond the
range, an escape that names no character, a container nested too deeply) is `refused`; it
may be skipped but not used.

## Main results

* `Document.toValue?_ofValue` — a value is recovered from its document.
* `Document.isCanonical_of_toValue?` — the value of a document is canonical.
-/

namespace RegulatoryReporting

/-- A tree in the order in which a decoder visits it. -/
inductive Document
  | null
  | bool (b : Bool)
  | number (n : Number)
  | text (s : String)
  | array (items : List Document)
  /-- An object; a key that stands for no text is `none`. -/
  | object (members : List (Option String × Document))
  /-- Well-formed text that stands for no value. -/
  | refused
  /-- Where the text stops being JSON. -/
  | broken
  /-- A value where a key has to stand; the text is no JSON from there on. -/
  | misplaced (d : Document)
  deriving Inhabited, Repr

namespace Document

mutual

/-- Whether the document is well formed throughout, so that it can be skipped. -/
def isWellFormed : Document → Bool
  | broken => false
  | misplaced _ => false
  | array items => allWellFormed items
  | object members => membersWellFormed members
  | _ => true

/-- Whether every item is well formed. -/
def allWellFormed : List Document → Bool
  | [] => true
  | d :: ds => isWellFormed d && allWellFormed ds

/-- Whether every member is well formed. -/
def membersWellFormed : List (Option String × Document) → Bool
  | [] => true
  | (_, d) :: ms => isWellFormed d && membersWellFormed ms

end

mutual

/-- The document of a value: members in the order of their keys. -/
def ofValue : Json → Document
  | .null => null
  | .bool b => bool b
  | .num n => number n
  | .str s => text s
  | .arr items => array (ofItems items)
  | .obj members => object (ofMembers members)

/-- The documents of the items. -/
def ofItems : List Json → List Document
  | [] => []
  | v :: vs => ofValue v :: ofItems vs

/-- The members with the documents of their values. -/
def ofMembers : List (String × Json) → List (Option String × Document)
  | [] => []
  | (k, v) :: ms => (some k, ofValue v) :: ofMembers ms

end

mutual

/-- The value of a document that can be used as a whole. Of several members of one key
the last one counts. -/
def toValue? : Document → Option Json
  | null => some .null
  | bool b => some (.bool b)
  | number n => some (.num n)
  | text s => some (.str s)
  | array items => (toItems? items).map .arr
  | object members => (toMembers? members).map Json.ofMembers
  | refused => none
  | broken => none
  | misplaced _ => none

/-- The values of the items. -/
def toItems? : List Document → Option (List Json)
  | [] => some []
  | d :: ds => do
    let v ← toValue? d
    let vs ← toItems? ds
    return v :: vs

/-- The members with their values, in the order of the document. -/
def toMembers? : List (Option String × Document) → Option (List (String × Json))
  | [] => some []
  | (key, d) :: ms => do
    let k ← key
    let v ← toValue? d
    let rest ← toMembers? ms
    return (k, v) :: rest

end

/-! ### From values to documents and back -/

mutual

/-- The document of a value is well formed. -/
theorem isWellFormed_ofValue : ∀ v : Json, (ofValue v).isWellFormed = true
  | .null | .bool _ | .num _ | .str _ => rfl
  | .arr items => allWellFormed_ofItems items
  | .obj members => membersWellFormed_ofMembers members

/-- The documents of items are well formed. -/
theorem allWellFormed_ofItems : ∀ items : List Json, allWellFormed (ofItems items) = true
  | [] => rfl
  | v :: vs => by
    rw [ofItems, allWellFormed, isWellFormed_ofValue v, allWellFormed_ofItems vs, Bool.and_true]

/-- The documents of members are well formed. -/
theorem membersWellFormed_ofMembers : ∀ members : List (String × Json),
    membersWellFormed (ofMembers members) = true
  | [] => rfl
  | (_, v) :: ms => by
    rw [ofMembers, membersWellFormed, isWellFormed_ofValue v, membersWellFormed_ofMembers ms,
      Bool.and_true]

end

/-- Items that are recovered each are recovered together. -/
theorem toItems?_ofItems {items : List Json} (h : ∀ v ∈ items, (ofValue v).toValue? = some v) :
    toItems? (ofItems items) = some items := by
  induction items with
  | nil => rfl
  | cons v vs ih =>
    obtain ⟨hfirst, hrest⟩ := List.forall_mem_cons.1 h
    rw [ofItems, toItems?, hfirst, ih hrest]
    rfl

/-- Members that are recovered each are recovered together. -/
theorem toMembers?_ofMembers {members : List (String × Json)}
    (h : ∀ m ∈ members, (ofValue m.2).toValue? = some m.2) :
    toMembers? (ofMembers members) = some members := by
  induction members with
  | nil => rfl
  | cons m ms ih =>
    obtain ⟨hfirst, hrest⟩ := List.forall_mem_cons.1 h
    rw [ofMembers, toMembers?, hfirst, ih hrest]
    rfl

/-- A canonical value is recovered from its document. -/
theorem toValue?_ofValue {v : Json} (h : v.IsCanonical) : (ofValue v).toValue? = some v := by
  induction h with
  | null | bool | num | str => rfl
  | arr _ ih => rw [ofValue, toValue?, toItems?_ofItems ih, Option.map_some]
  | obj ascending _ ih =>
    rw [ofValue, toValue?, toMembers?_ofMembers ih, Option.map_some,
      Json.ofMembers_of_isAscending ascending]

mutual

/-- The value of a document is canonical. -/
theorem isCanonical_of_toValue? : ∀ (d : Document) {v : Json}, d.toValue? = some v →
    v.IsCanonical
  | null, _, h => Option.some.inj h ▸ .null
  | bool b, _, h => Option.some.inj h ▸ .bool b
  | number n, _, h => Option.some.inj h ▸ .num n
  | text s, _, h => Option.some.inj h ▸ .str s
  | array items, _, h => by
    rw [toValue?, Option.map_eq_some_iff] at h
    obtain ⟨vs, hvs, rfl⟩ := h
    exact .arr (isCanonical_of_toItems? items hvs)
  | object members, _, h => by
    rw [toValue?, Option.map_eq_some_iff] at h
    obtain ⟨ms, hms, rfl⟩ := h
    exact Json.isCanonical_ofMembers (isCanonical_of_toMembers? members hms)
  | refused, _, h | broken, _, h | misplaced _, _, h => nomatch h

/-- The values of items are canonical. -/
theorem isCanonical_of_toItems? : ∀ (ds : List Document) {vs : List Json},
    toItems? ds = some vs → ∀ v ∈ vs, v.IsCanonical
  | [], _, h => by
    obtain rfl := Option.some.inj h
    exact nofun
  | d :: ds, _, h => by
    simp only [toItems?, Option.bind_eq_bind, Option.bind_eq_some_iff] at h
    obtain ⟨v, hv, vs, hvs, h⟩ := h
    obtain rfl := Option.some.inj h
    exact List.forall_mem_cons.2
      ⟨isCanonical_of_toValue? d hv, isCanonical_of_toItems? ds hvs⟩

/-- The values of members are canonical. -/
theorem isCanonical_of_toMembers? : ∀ (ds : List (Option String × Document))
    {ms : List (String × Json)}, toMembers? ds = some ms → ∀ m ∈ ms, m.2.IsCanonical
  | [], _, h => by
    obtain rfl := Option.some.inj h
    exact nofun
  | (key, d) :: ds, _, h => by
    simp only [toMembers?, Option.bind_eq_bind, Option.bind_eq_some_iff] at h
    obtain ⟨k, _, v, hv, ms, hms, h⟩ := h
    obtain rfl := Option.some.inj h
    exact List.forall_mem_cons.2
      ⟨isCanonical_of_toValue? d hv, isCanonical_of_toMembers? ds hms⟩

end

end Document

end RegulatoryReporting
