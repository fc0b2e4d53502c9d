import RegulatoryReporting.Number.Reading
import RegulatoryReporting.Number.Shortest
import RegulatoryReporting.Ordered

/-!
# JSON Values

A record is a JSON value. The members of an object are kept in ascending order of their
keys and no key occurs twice, so a value has one representation; `Json.ofMembers` brings
members into that order and lets a later member replace an earlier one of the same key. When
an object is written member by member, an optional one is left out if it has nothing to show.

`Json.same` is the equality that conditions use on arrays and objects: structural, except
that the two zeros of binary64 are equal.

## Main results

* `Json.isCanonical_ofMembers` — members are brought into the one order that they may have.
* `Json.ofMembers_of_isAscending` — members that stand in this order are kept.
-/

namespace RegulatoryReporting

/-- A JSON value. -/
inductive Json
  | null
  | bool (b : Bool)
  | num (n : Number)
  | str (s : String)
  | arr (items : List Json)
  /-- An object, its members in ascending order of their keys. -/
  | obj (members : List (String × Json))
  deriving Inhabited, Repr

namespace Json

/-- The member of an object under a key. -/
def get? (v : Json) (key : String) : Option Json :=
  match v with
  | obj members => members.lookup key
  | _ => none

/-- The items of an array. -/
def items? : Json → Option (List Json)
  | arr items => some items
  | _ => none

/-- Whether the value is an object. -/
def isObject : Json → Bool
  | obj _ => true
  | _ => false

/-- Whether the value is a number. -/
def isNumber : Json → Bool
  | num _ => true
  | _ => false

/-- The object with the given members, a later one replacing an earlier one. -/
def ofMembers (members : List (String × Json)) : Json :=
  obj (members.foldl (fun sorted m => Ordered.insertEntry m.1 m.2 sorted) [])

/-- The array of the given texts. -/
def ofStrings (ss : List String) : Json := arr (ss.map str)

/-- A natural number as a value. -/
def ofNat (n : Nat) : Json := num (.int n)

/-! ### Members to write -/

/-- A member, or nothing where there is no value. -/
def optionalMember (key : String) (v : Option Json) : List (String × Json) :=
  match v with
  | some v => [(key, v)]
  | none => []

/-- An optional string. -/
def optionalText (key : String) (s : Option String) : List (String × Json) :=
  optionalMember key (s.map str)

/-- An optional list of strings. -/
def optionalTexts (key : String) (ss : Option (List String)) : List (String × Json) :=
  optionalMember key (ss.map ofStrings)

/-- An optional natural number. -/
def optionalCount (key : String) (n : Option Nat) : List (String × Json) :=
  optionalMember key (n.map ofNat)

/-! ### Equality -/

mutual

/-- Structural equality, the two zeros of binary64 being equal. -/
def same : Json → Json → Bool
  | null, null => true
  | bool a, bool b => a == b
  | num m, num n => m.same n
  | str s, str t => s == t
  | arr xs, arr ys => sameItems xs ys
  | obj ms, obj ns => sameMembers ms ns
  | _, _ => false

/-- Item by item equality. -/
def sameItems : List Json → List Json → Bool
  | [], [] => true
  | x :: xs, y :: ys => same x y && sameItems xs ys
  | _, _ => false

/-- Member by member equality. -/
def sameMembers : List (String × Json) → List (String × Json) → Bool
  | [], [] => true
  | (j, x) :: ms, (k, y) :: ns => j == k && same x y && sameMembers ms ns
  | _, _ => false

end

/-! ### The one representation of a value -/

/-- The members of every object ascend by their keys. -/
inductive IsCanonical : Json → Prop
  | null : IsCanonical null
  | bool (b : Bool) : IsCanonical (bool b)
  | num (n : Number) : IsCanonical (num n)
  | str (s : String) : IsCanonical (str s)
  | arr {items : List Json} (each : ∀ v ∈ items, IsCanonical v) : IsCanonical (arr items)
  | obj {members : List (String × Json)} (ascending : Ordered.IsAscending members)
      (each : ∀ m ∈ members, IsCanonical m.2) : IsCanonical (obj members)

/-- The members of a canonical value are canonical. -/
theorem IsCanonical.of_get? {v w : Json} {key : String} (h : v.IsCanonical)
    (hget : v.get? key = some w) : w.IsCanonical := by
  cases h with
  | obj _ each =>
    obtain ⟨before, after, hsplit, _⟩ := List.lookup_eq_some_iff.1 hget
    refine each (key, w) ?_
    rw [hsplit]
    exact List.mem_append_right _ List.mem_cons_self
  | _ => cases hget

/-- Members that are put in order ascend by their keys and are among those that were given. -/
theorem exists_ofMembers_eq (members : List (String × Json)) :
    ∃ sorted, ofMembers members = obj sorted ∧ Ordered.IsAscending sorted ∧
      ∀ m ∈ sorted, m ∈ members := by
  suffices ∀ sorted : List (String × Json), Ordered.IsAscending sorted →
      Ordered.IsAscending (members.foldl (fun sorted m => Ordered.insertEntry m.1 m.2 sorted)
        sorted) ∧
      ∀ m ∈ members.foldl (fun sorted m => Ordered.insertEntry m.1 m.2 sorted) sorted,
        m ∈ members ∨ m ∈ sorted by
    obtain ⟨hascending, hmem⟩ := this [] List.Pairwise.nil
    exact ⟨_, rfl, hascending, fun m hm => (hmem m hm).resolve_right List.not_mem_nil⟩
  induction members with
  | nil => exact fun sorted hascending => ⟨hascending, fun m hm => .inr hm⟩
  | cons first rest ih =>
    intro sorted hascending
    obtain ⟨hafter, hmem⟩ := ih _ (Ordered.isAscending_insertEntry hascending)
    refine ⟨hafter, fun m hm => ?_⟩
    rcases hmem m hm with hrest | hinserted
    · exact .inl (List.mem_cons_of_mem _ hrest)
    · rcases Ordered.eq_or_mem_of_mem_insertEntry hinserted with rfl | hsorted
      · exact .inl List.mem_cons_self
      · exact .inr hsorted

/-- Inserting members one after the other gives a canonical object, if the values are
canonical. -/
theorem isCanonical_ofMembers {members : List (String × Json)}
    (h : ∀ m ∈ members, m.2.IsCanonical) : (ofMembers members).IsCanonical := by
  obtain ⟨sorted, hsorted, hascending, hmem⟩ := exists_ofMembers_eq members
  rw [hsorted]
  exact .obj hascending fun m hm => h m (hmem m hm)

/-- Inserting members that ascend one after the other changes nothing. -/
theorem ofMembers_of_isAscending {members : List (String × Json)}
    (h : Ordered.IsAscending members) : ofMembers members = obj members := by
  suffices ∀ sorted : List (String × Json), Ordered.IsAscending (sorted ++ members) →
      members.foldl (fun sorted m => Ordered.insertEntry m.1 m.2 sorted) sorted =
        sorted ++ members by
    rw [ofMembers, this [] h, List.nil_append]
  clear h
  induction members with
  | nil => exact fun sorted _ => (List.append_nil sorted).symm
  | cons first rest ih =>
    intro sorted hascending
    have hbefore : ∀ entry ∈ sorted, entry.1 < first.1 := fun entry hentry =>
      (List.pairwise_append.1 hascending).2.2 entry hentry first List.mem_cons_self
    rw [List.foldl_cons, Ordered.insertEntry_of_forall_lt hbefore, ih]
    · rw [List.append_assoc, List.singleton_append]
    · rwa [List.append_assoc, List.singleton_append]

end Json

end RegulatoryReporting
