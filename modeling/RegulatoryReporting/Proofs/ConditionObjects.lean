import Mathlib.Data.List.Forall2
import RegulatoryReporting.Proofs.ConditionDrafts

/-!
# Decoding the Objects of Conditions

An object is read member by member into a draft. Null counts as missing, so what the draft
holds at a key depends on the member that is given under it (`ConditionKey.given?`): the
draft holds something exactly if a member is given (`Condition.isSome_held`). From this it
follows which objects are decoded: the nodes (`Condition.IsNode`), which are described by
their members and by the decoding of their operands, without a draft.

## Main results

* `Condition.decode_obj_eq_ok_iff` — an object is decoded to what its draft makes.
* `Condition.isAccepted_obj_iff` — an object is decoded exactly if it is a node.
-/

namespace RegulatoryReporting

/-! ### Operators -/

namespace Operator

/-- A text names an operator exactly when it is its name. -/
theorem lookup_wireNames_eq_some_iff {s : String} {op : Operator} :
    wireNames.lookup s = some op ↔ s = op.name := by
  constructor
  · intro h
    obtain ⟨before, after, hsplit, _⟩ := List.lookup_eq_some_iff.1 h
    have hmem : (s, op) ∈ wireNames := by
      rw [hsplit]
      exact List.mem_append_right _ List.mem_cons_self
    obtain ⟨other, _, hother⟩ := List.mem_map.1 hmem
    obtain ⟨rfl, rfl⟩ := Prod.mk.inj hother
    rfl
  · rintro rfl
    cases op <;> rfl

/-- How an operator is written: as its name, or as an object with its name over null. -/
def IsWrittenAs (op : Operator) (v : Json) : Prop := v = .str op.name ∨ v = .obj [(op.name, .null)]

/-- A text is read as an operator exactly when it is its name. -/
theorem variant_eq_ok_iff {s : String} {op : Operator} :
    Decoder.variant wireNames s = .ok op ↔ s = op.name := by
  rw [← lookup_wireNames_eq_some_iff, Decoder.variant]
  cases wireNames.lookup s <;> simp

/-- A value is read as an operator exactly when it is one of the two ways to write it. -/
theorem name_ofValue_eq_ok_iff {v : Json} {op : Operator} :
    Decoder.name wireNames .tree (.ofValue v) = .ok op ↔ op.IsWrittenAs v := by
  rw [IsWrittenAs]
  cases v with
  | str s => simp [Document.ofValue, Decoder.name, variant_eq_ok_iff]
  | obj members =>
    cases members with
    | nil => simp [Document.ofValue, Document.ofMembers, Decoder.name]
    | cons member rest =>
      obtain ⟨key, v⟩ := member
      cases rest with
      | nil =>
        simp only [Document.ofValue, Document.ofMembers, Decoder.name, Except.bind_eq_ok_iff,
          variant_eq_ok_iff]
        cases v <;> simp [Document.ofValue, Decoder.unit, pure, Except.pure, eq_comm]
      | cons => simp [Document.ofValue, Document.ofMembers, Decoder.name]
  | _ => simp [Document.ofValue, Decoder.name]

end Operator

/-! ### Members -/

/-- The member of a node under a key, null counting as missing. -/
def ConditionKey.given? (key : ConditionKey) (v : Json) : Option Json :=
  match v.get? key.name with
  | some .null => none
  | member => member

/-- A member that is given is not null, and stands in the object. -/
theorem ConditionKey.given?_eq_some_iff {key : ConditionKey} {v w : Json} :
    key.given? v = some w ↔ v.get? key.name = some w ∧ w ≠ .null := by
  rw [given?]
  split
  next h =>
    simp only [h, reduceCtorEq, Option.some.injEq, false_iff, not_and, not_not]
    exact Eq.symm
  next hnull =>
    constructor
    · intro h
      refine ⟨h, ?_⟩
      rintro rfl
      exact hnull h
    · exact And.left

namespace ConditionKey

variable {m : Medium} {v : Json}

/-- Null is read as missing. -/
theorem read_null (key : ConditionKey) : key.read m .null = .ok none := by
  cases key <;> rfl

/-- Nothing but null is read as missing. -/
theorem read_ne_ok_none (key : ConditionKey) (hnull : v ≠ .null) :
    key.read m (.ofValue v) ≠ .ok none := by
  cases key <;> cases v <;>
    simp [read, Document.ofValue, Decoder.optional, Condition.decodeOperands, Condition.isNull,
      Except.map_eq_ok_iff] at hnull ⊢

/-- The field of a leaf is a text. -/
theorem read_field_eq_ok_iff {s : String} :
    read m (.ofValue v) .field = .ok (some s) ↔ v = .str s := by
  cases v <;> simp [read, Document.ofValue, Decoder.optional, Decoder.string, Except.map]

/-- The name of an operator is read as the operator. -/
theorem read_operator_name {op : Operator} :
    read m (.ofValue (.str op.name)) .operator = .ok (some op) :=
  Except.map_eq_ok_iff.2 ⟨op, Operator.variant_eq_ok_iff.2 rfl, rfl⟩

/-- The operator of a leaf is written in one of the two ways. -/
theorem read_operator_eq_ok_iff {op : Operator} :
    read .tree (.ofValue v) .operator = .ok (some op) ↔ op.IsWrittenAs v := by
  rw [← Operator.name_ofValue_eq_ok_iff]
  cases v <;> simp [read, Document.ofValue, Decoder.optional, Except.map_eq_ok_iff, Decoder.name]

/-- The value of a leaf is kept as it is. -/
theorem read_value_of_isCanonical (h : v.IsCanonical) (hnull : v ≠ .null) :
    read m (.ofValue v) .value = .ok (some v) := by
  refine Decoder.optional_eq_ok_some_iff.2
    ⟨?_, Decoder.value_eq_ok_iff.2 (Document.toValue?_ofValue h)⟩
  cases v <;> first | exact absurd rfl hnull | exact nofun

/-- The operand of a negation is a node. -/
theorem read_not_eq_ok_iff {c : Condition} (hnull : v ≠ .null) :
    read m (.ofValue v) .not = .ok (some c) ↔ Condition.decode m (.ofValue v) = .ok c := by
  have hnot : Condition.isNull (.ofValue v) = false := by
    cases v <;> first | rfl | exact absurd rfl hnull
  simp only [read, hnot, Bool.false_eq_true, if_false, Except.map_eq_ok_iff, Option.some.injEq,
    exists_eq_right]

end ConditionKey

namespace Condition

variable {m : Medium}

/-- Nodes are decoded one by one. -/
theorem decodeList_ofItems_eq_ok_iff {items : List Json} {cs : List Condition} :
    decodeList m (Document.ofItems items) = .ok cs ↔
      List.Forall₂ (fun v c => decode m (.ofValue v) = .ok c) items cs := by
  induction items generalizing cs with
  | nil =>
    rw [Document.ofItems, decodeList, List.forall₂_nil_left_iff, Except.ok.injEq, eq_comm]
  | cons v vs ih =>
    rw [Document.ofItems, decodeList, List.forall₂_cons_left_iff]
    simp only [Except.bind_eq_ok_iff, ih]
    constructor
    · rintro ⟨c, hc, cs, hcs, h⟩
      exact ⟨c, cs, hc, hcs, (Except.ok.inj h).symm⟩
    · rintro ⟨c, cs, hc, hcs, rfl⟩
      exact ⟨c, hc, cs, hcs, rfl⟩

/-- Operands are a list of nodes. -/
theorem decodeOperands_ofValue_eq_ok_iff {v : Json} {cs : List Condition} :
    decodeOperands m (.ofValue v) = .ok (some cs) ↔
      ∃ items, v = .arr items ∧
        List.Forall₂ (fun v c => decode m (.ofValue v) = .ok c) items cs := by
  cases v with
  | arr items =>
    simp [Document.ofValue, decodeOperands, Except.map_eq_ok_iff, decodeList_ofItems_eq_ok_iff]
  | _ => simp [Document.ofValue, decodeOperands]

end Condition

/-! ### Objects -/

namespace Condition

variable {m : Medium} {members : List (String × Json)} {t : ConditionDraft}

/-- The draft of an object holds at a key what the member given under it reads as. -/
theorem ReadsAt.held {key : ConditionKey} (h : ReadsAt m members {} t key) :
    (key.given? (.obj members) = none → t.held key = none) ∧
    ∀ v, key.given? (.obj members) = some v → key.read m (.ofValue v) = .ok (t.held key) := by
  rw [ReadsAt, ConditionDraft.get_empty] at h
  rw [ConditionKey.given?, Json.get?, ConditionDraft.held]
  cases hlookup : members.lookup key.name with
  | none =>
    rw [hlookup] at h
    simp [h]
  | some v =>
    rw [hlookup] at h
    obtain ⟨a, hread, hget⟩ := h
    rw [hget, Option.join_some]
    cases v with
    | null =>
      have hnone : a = none := Except.ok.inj (hread.symm.trans key.read_null)
      simp [hnone]
    | _ => simp [hread]

/-- An object has a draft when every member that is given can be read. -/
theorem exists_draft (h : ∀ (key : ConditionKey) v, key.given? (.obj members) = some v →
    ∃ a, key.read m (.ofValue v) = .ok a) : ∃ t, ∀ key, ReadsAt m members {} t key := by
  have hplace : ∀ key : ConditionKey, ∃ place : Option (Option key.Content),
      ∀ t : ConditionDraft, t.get key = place → ReadsAt m members {} t key := by
    intro key
    cases hlookup : members.lookup key.name with
    | none =>
      refine ⟨none, fun t ht => ?_⟩
      rw [ReadsAt, hlookup]
      exact ht.trans ConditionDraft.get_empty.symm
    | some v =>
      obtain ⟨a, hread⟩ : ∃ a, key.read m (.ofValue v) = .ok a := by
        by_cases hnull : v = .null
        · subst hnull
          exact ⟨none, key.read_null⟩
        · exact h key v (ConditionKey.given?_eq_some_iff.2 ⟨hlookup, hnull⟩)
      refine ⟨some a, fun t ht => ?_⟩
      rw [ReadsAt, hlookup]
      exact ⟨a, hread, ht⟩
  choose place hplace using hplace
  refine ⟨⟨place .field, place .operator, place .value, place .and, place .or, place .not⟩,
    fun key => hplace key _ ?_⟩
  cases key <;> rfl

/-- An object whose keys differ is decoded to what its draft makes. -/
theorem decode_obj_eq_ok_iff (hnodup : (members.map (·.1)).Nodup) {c : Condition} :
    decode m (.ofValue (.obj members)) = .ok c ↔
      ∃ t, (∀ key, ReadsAt m members {} t key) ∧ t.Makes c := by
  have hfree : ∀ key : ConditionKey, members.lookup key.name ≠ none →
      ({} : ConditionDraft).get key = none := fun _ _ => ConditionDraft.get_empty
  simp only [Document.ofValue, decode, Except.bind_eq_ok_iff, ConditionDraft.finish,
    Except.mapError_eq_ok_iff, decodeMembers_eq_ok_iff hnodup hfree,
    ConditionDraft.toCondition_eq_ok_iff]

/-- The keys among those that tell the kind of a node which are given. -/
def kindsOf (v : Json) : List ConditionKey :=
  ConditionKey.kinds.filter fun key => (key.given? v).isSome

/-- The draft of an object holds something exactly at the keys under which a member is
given. -/
theorem isSome_held {key : ConditionKey} (h : ReadsAt m members {} t key) :
    (t.held key).isSome = (key.given? (.obj members)).isSome := by
  cases hgiven : key.given? (.obj members) with
  | none => rw [h.held.1 hgiven]; rfl
  | some v =>
    have hread := h.held.2 v hgiven
    cases hheld : t.held key with
    | none =>
      rw [hheld] at hread
      exact absurd hread (key.read_ne_ok_none (ConditionKey.given?_eq_some_iff.1 hgiven).2)
    | some a => rfl

/-- The draft of an object is of the kinds that the object gives. -/
theorem kinds_eq_kindsOf (h : ∀ key, ReadsAt m members {} t key) :
    t.kinds = kindsOf (.obj members) := by
  simp only [ConditionDraft.kinds_eq_filter, kindsOf, fun key => isSome_held (h key)]

/-! ### Which objects are decoded -/

/-- A value that is decoded. -/
def IsAccepted (v : Json) : Prop := ∃ c, ofJson v = .ok c

/-- A node of a condition: the one key that tells its kind, with a member of the right type
under it, and beside it an operator and a value where the kind calls for them. -/
inductive IsNode (v : Json) : Prop
  /-- A field that is not blank, an operator, and the value that the operator demands. A
  presence test demands none and takes any. -/
  | leaf {field : String} {op : Operator} {written : Json} (kind : kindsOf v = [.field])
      (here : ConditionKey.field.given? v = some (.str field))
      (not_blank : Text.isBlank field = false)
      (operator : ConditionKey.operator.given? v = some written) (names : op.IsWrittenAs written)
      (demanded : op.isPresence = true ∨ op.accepts (ConditionKey.value.given? v) = true) :
      IsNode v
  /-- At least one operand, each of which is decoded. -/
  | operands {key : ConditionKey} {items : List Json} (combines : key = .and ∨ key = .or)
      (kind : kindsOf v = [key]) (no_operator : ConditionKey.operator.given? v = none)
      (no_value : ConditionKey.value.given? v = none)
      (here : key.given? v = some (.arr items)) (some_item : items ≠ [])
      (each : ∀ w ∈ items, IsAccepted w) : IsNode v
  /-- One operand, which is decoded. -/
  | operand {inner : Json} (kind : kindsOf v = [.not])
      (no_operator : ConditionKey.operator.given? v = none)
      (no_value : ConditionKey.value.given? v = none)
      (here : ConditionKey.not.given? v = some inner) (accepted : IsAccepted inner) : IsNode v

/-- At least one operand is read exactly from a list of at least one node, each of which is
decoded. -/
theorem exists_decodeOperands_iff {v : Json} :
    (∃ cs, decodeOperands .tree (.ofValue v) = .ok (some cs) ∧ cs ≠ []) ↔
      ∃ items, v = .arr items ∧ items ≠ [] ∧ ∀ w ∈ items, IsAccepted w := by
  constructor
  · rintro ⟨cs, hread, hne⟩
    obtain ⟨items, rfl, heach⟩ := decodeOperands_ofValue_eq_ok_iff.1 hread
    refine ⟨items, rfl, ?_, ?_⟩
    · rintro rfl
      exact hne (List.forall₂_nil_left_iff.1 heach)
    · clear hread hne
      induction heach with
      | nil => exact List.forall_mem_nil _
      | cons hfirst _ ih => exact List.forall_mem_cons.2 ⟨⟨_, hfirst⟩, ih⟩
  · rintro ⟨items, rfl, hne, heach⟩
    choose! node hnode using heach
    refine ⟨items.map node, decodeOperands_ofValue_eq_ok_iff.2 ⟨items, rfl, ?_⟩, ?_⟩
    · exact List.forall₂_map_right_iff.2 (List.forall₂_same.2 hnode)
    · exact fun h => hne (List.map_eq_nil_iff.1 h)

section

variable {m : Medium} {members : List (String × Json)} {t : ConditionDraft} {key : ConditionKey}

/-- Something that a draft holds was read from a member that is given. -/
theorem exists_given_of_held (h : ReadsAt m members {} t key) {a : key.Content}
    (hheld : t.held key = some a) :
    ∃ v, key.given? (.obj members) = some v ∧ key.read m (.ofValue v) = .ok (some a) := by
  obtain ⟨v, hgiven⟩ := Option.isSome_iff_exists.1 <|
    (isSome_held h).symm.trans (by rw [hheld, Option.isSome_some])
  exact ⟨v, hgiven, hheld ▸ h.held.2 v hgiven⟩

/-- Where a draft holds nothing, no member is given. -/
theorem given?_eq_none_of_held (h : ReadsAt m members {} t key) (hheld : t.held key = none) :
    key.given? (.obj members) = none := by
  rw [← Option.not_isSome_iff_eq_none, ← isSome_held h, hheld]
  exact Bool.false_ne_true

/-- An object in which one key tells the kind gives no member under another such key. -/
theorem given?_eq_none_of_kindsOf {v : Json} (h : kindsOf v = [key]) {other : ConditionKey}
    (hkind : other ∈ ConditionKey.kinds) (hne : other ≠ key) : other.given? v = none := by
  cases hgiven : other.given? v with
  | none => rfl
  | some w =>
    have hmem : other ∈ kindsOf v := List.mem_filter.2 ⟨hkind, by rw [hgiven, Option.isSome_some]⟩
    rw [h] at hmem
    exact absurd (List.mem_singleton.1 hmem) hne

/-- An object in which one key tells the kind has a draft, if the member under this key, the
operator and the value can be read. -/
theorem exists_draft_of_kindsOf (hkind : kindsOf (.obj members) = [key]) {v : Json}
    (hgiven : key.given? (.obj members) = some v) {a : Option key.Content}
    (hread : key.read m (.ofValue v) = .ok a)
    (hbeside : ∀ other ∈ [ConditionKey.operator, .value], ∀ w,
      other.given? (.obj members) = some w → ∃ b, other.read m (.ofValue w) = .ok b) :
    ∃ t, (∀ key, ReadsAt m members {} t key) ∧ t.kinds = [key] ∧ t.held key = a := by
  obtain ⟨t, ht⟩ : ∃ t, ∀ key, ReadsAt m members {} t key := by
    refine exists_draft fun other w hw => ?_
    by_cases hne : other = key
    · subst hne
      exact ⟨a, Option.some.inj (hgiven.symm.trans hw) ▸ hread⟩
    by_cases hother : other ∈ ConditionKey.kinds
    · rw [given?_eq_none_of_kindsOf hkind hother hne] at hw
      cases hw
    · refine hbeside other ?_ w hw
      cases other <;> first | decide | exact absurd (by decide) hother
  refine ⟨t, ht, (kinds_eq_kindsOf ht).trans hkind, ?_⟩
  exact Except.ok.inj (((ht key).held.2 v hgiven).symm.trans hread)

/-- A value that is given in a canonical object can be read, and is kept as it is. -/
theorem read_value_of_given (hcanonical : (Json.obj members).IsCanonical) {v : Json}
    (hgiven : ConditionKey.value.given? (.obj members) = some v) :
    ConditionKey.read m (.ofValue v) .value = .ok (some v) := by
  obtain ⟨hget, hnull⟩ := ConditionKey.given?_eq_some_iff.1 hgiven
  exact ConditionKey.read_value_of_isCanonical (hcanonical.of_get? hget) hnull

/-- The draft of a canonical object holds the value that is given. -/
theorem held_value_eq_given? (hcanonical : (Json.obj members).IsCanonical)
    (h : ReadsAt m members {} t .value) :
    t.held .value = ConditionKey.value.given? (.obj members) := by
  cases hgiven : ConditionKey.value.given? (.obj members) with
  | none => exact h.held.1 hgiven
  | some v =>
    exact Except.ok.inj ((h.held.2 v hgiven).symm.trans (read_value_of_given hcanonical hgiven))

end

/-- An object that is decoded is a node. -/
theorem isNode_of_makes {members : List (String × Json)} {t : ConditionDraft} {c : Condition}
    (hcanonical : (Json.obj members).IsCanonical) (ht : ∀ key, ReadsAt .tree members {} t key)
    (hmakes : t.Makes c) : IsNode (.obj members) := by
  have hkinds := kinds_eq_kindsOf ht
  cases hmakes with
  | leaf hkind hfield hl =>
    have hvalue := held_value_eq_given? hcanonical (ht .value)
    rw [hvalue, ConditionDraft.toLeaf_eq_ok_iff] at hl
    obtain ⟨hwf, rfl, hoperator, hkept⟩ := hl
    rw [ConditionLeaf.isWellFormed, Bool.and_eq_true, Bool.not_eq_true', hkept,
      ConditionDraft.accepts_keptValue_iff] at hwf
    obtain ⟨v, hfield, hreadField⟩ := exists_given_of_held (ht .field) hfield
    obtain rfl := ConditionKey.read_field_eq_ok_iff.1 hreadField
    obtain ⟨written, hoperator, hreadOperator⟩ := exists_given_of_held (ht .operator) hoperator
    exact .leaf (hkinds.symm.trans hkind) hfield hwf.1 hoperator
      (ConditionKey.read_operator_eq_ok_iff.1 hreadOperator) hwf.2
  | and hkind hoperator hvalue hand hne =>
    obtain ⟨v, hgiven, hread⟩ := exists_given_of_held (ht .and) hand
    obtain ⟨items, rfl, hitems, heach⟩ := exists_decodeOperands_iff.1 ⟨_, hread, hne⟩
    exact .operands (.inl rfl) (hkinds.symm.trans hkind) (given?_eq_none_of_held (ht _) hoperator)
      (given?_eq_none_of_held (ht _) hvalue) hgiven hitems heach
  | or hkind hoperator hvalue hor hne =>
    obtain ⟨v, hgiven, hread⟩ := exists_given_of_held (ht .or) hor
    obtain ⟨items, rfl, hitems, heach⟩ := exists_decodeOperands_iff.1 ⟨_, hread, hne⟩
    exact .operands (.inr rfl) (hkinds.symm.trans hkind) (given?_eq_none_of_held (ht _) hoperator)
      (given?_eq_none_of_held (ht _) hvalue) hgiven hitems heach
  | not hkind hoperator hvalue hnot =>
    obtain ⟨v, hgiven, hread⟩ := exists_given_of_held (ht .not) hnot
    have hnull := (ConditionKey.given?_eq_some_iff.1 hgiven).2
    exact .operand (hkinds.symm.trans hkind) (given?_eq_none_of_held (ht _) hoperator)
      (given?_eq_none_of_held (ht _) hvalue) hgiven
      ⟨_, (ConditionKey.read_not_eq_ok_iff hnull).1 hread⟩

/-- A node has a draft that makes a condition. -/
theorem exists_makes_of_isNode {members : List (String × Json)}
    (hcanonical : (Json.obj members).IsCanonical) (h : IsNode (.obj members)) :
    ∃ t, (∀ key, ReadsAt .tree members {} t key) ∧ ∃ c, t.Makes c := by
  -- Without an operator and a value nothing beside the key of the kind has to be read.
  have hbeside (hoperator : ConditionKey.operator.given? (.obj members) = none)
      (hvalue : ConditionKey.value.given? (.obj members) = none) :
      ∀ other ∈ [ConditionKey.operator, .value], ∀ w, other.given? (.obj members) = some w →
        ∃ b, other.read .tree (.ofValue w) = .ok b := by
    simp [hoperator, hvalue]
  cases h with
  | @leaf field op written hkind hfield hblank hoperator hwritten hdemanded =>
    have hread := ConditionKey.read_operator_eq_ok_iff.2 hwritten
    obtain ⟨t, ht, hkinds, hheld⟩ := exists_draft_of_kindsOf hkind hfield
      (ConditionKey.read_field_eq_ok_iff.2 rfl) <| List.forall_mem_cons.2
        ⟨fun w hw => ⟨_, Option.some.inj (hoperator.symm.trans hw) ▸ hread⟩,
          List.forall_mem_singleton.2 fun w hw => ⟨_, read_value_of_given hcanonical hw⟩⟩
    have hop : t.held .operator = some op :=
      Except.ok.inj (((ht .operator).held.2 written hoperator).symm.trans hread)
    let l : ConditionLeaf :=
      ⟨field, op, ConditionDraft.keptValue op (ConditionKey.value.given? (.obj members))⟩
    have hwf : l.isWellFormed = true := by
      rw [ConditionLeaf.isWellFormed, hblank, Bool.not_false, Bool.true_and]
      exact ConditionDraft.accepts_keptValue_iff.2 hdemanded
    refine ⟨t, ht, .leaf l, .leaf hkinds hheld ?_⟩
    rw [hop, held_value_eq_given? hcanonical (ht .value),
      ConditionDraft.toLeaf_eq_ok_iff]
    exact ⟨hwf, rfl, rfl, rfl⟩
  | @operands key items hcombines hkind hoperator hvalue hgiven hne heach =>
    obtain ⟨cs, hread, hcs⟩ := exists_decodeOperands_iff.2 ⟨items, rfl, hne, heach⟩
    obtain rfl | rfl := hcombines
    · obtain ⟨t, ht, hkinds, hheld⟩ := exists_draft_of_kindsOf hkind hgiven
        (a := some cs) hread (hbeside hoperator hvalue)
      exact ⟨t, ht, _, .and hkinds ((ht .operator).held.1 hoperator)
        ((ht .value).held.1 hvalue) hheld hcs⟩
    · obtain ⟨t, ht, hkinds, hheld⟩ := exists_draft_of_kindsOf hkind hgiven
        (a := some cs) hread (hbeside hoperator hvalue)
      exact ⟨t, ht, _, .or hkinds ((ht .operator).held.1 hoperator)
        ((ht .value).held.1 hvalue) hheld hcs⟩
  | operand hkind hoperator hvalue hgiven haccepted =>
    obtain ⟨c, hc⟩ := haccepted
    have hnull := (ConditionKey.given?_eq_some_iff.1 hgiven).2
    obtain ⟨t, ht, hkinds, hheld⟩ := exists_draft_of_kindsOf hkind hgiven
      ((ConditionKey.read_not_eq_ok_iff hnull).2 hc) (hbeside hoperator hvalue)
    exact ⟨t, ht, _, .not hkinds ((ht .operator).held.1 hoperator) ((ht .value).held.1 hvalue)
      hheld⟩

/-- An object is decoded exactly if it is a node. -/
theorem isAccepted_obj_iff {members : List (String × Json)}
    (hcanonical : (Json.obj members).IsCanonical) :
    IsAccepted (.obj members) ↔ IsNode (.obj members) := by
  have hnodup : (members.map (·.1)).Nodup := by
    cases hcanonical with
    | obj hascending _ => exact hascending.nodup
  constructor
  · rintro ⟨c, hc⟩
    obtain ⟨t, ht, hmakes⟩ := (decode_obj_eq_ok_iff hnodup).1 hc
    exact isNode_of_makes hcanonical ht hmakes
  · intro h
    obtain ⟨t, ht, c, hmakes⟩ := exists_makes_of_isNode hcanonical h
    exact ⟨c, (decode_obj_eq_ok_iff hnodup).2 ⟨t, ht, hmakes⟩⟩

end Condition

end RegulatoryReporting
