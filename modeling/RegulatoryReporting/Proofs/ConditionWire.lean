import RegulatoryReporting.Proofs.ConditionObjects

/-!
# The Wire Form of Conditions, There and Back

Decoding and encoding a condition are inverse to each other on the sound conditions
(`Condition.IsSound`): what is decoded is sound, and a sound condition that is encoded and
decoded again is the same condition. A condition is sound if it is well formed and the
values of its leaves are canonical. The second only excludes values that are put together with
the members of an object out of order.

## Main results

* `Condition.decode_toJson` — a sound condition is recovered from its wire form.
* `Condition.isSound_of_decode` — what is decoded from any document is sound.
* `Condition.wire_form` — both together, with the objects that are decoded.
-/

namespace RegulatoryReporting

namespace Condition

variable {m : Medium}

/-! ### Well-formed conditions -/

/-- The values of all leaves are canonical. -/
def HasCanonicalValues (c : Condition) : Prop :=
  ∀ l ∈ c.leaves, ∀ v, l.value = some v → v.IsCanonical

/-- A condition that decoding can give: it is well formed, and its values are canonical. -/
structure IsSound (c : Condition) : Prop where
  wellFormed : c.WellFormed
  canonical : c.HasCanonicalValues

/-- The leaves of several conditions are the leaves of each. -/
theorem childrenLeaves_eq_flatMap (cs : List Condition) :
    childrenLeaves cs = cs.flatMap leaves := by
  induction cs with
  | nil => rfl
  | cons c cs ih => rw [childrenLeaves, ih, List.flatMap_cons]

/-- Something holds of all leaves of several conditions if it holds of all leaves of each. -/
theorem forall_mem_childrenLeaves {cs : List Condition} {holds : ConditionLeaf → Prop} :
    (∀ l ∈ childrenLeaves cs, holds l) ↔ ∀ c ∈ cs, ∀ l ∈ c.leaves, holds l := by
  simp only [childrenLeaves_eq_flatMap, List.mem_flatMap]
  exact ⟨fun h c hc l hl => h l ⟨c, hc, hl⟩, fun h l ⟨c, hc, hl⟩ => h c hc l hl⟩

/-- The values of a conjunction are those of its children. -/
theorem hasCanonicalValues_and {cs : List Condition} :
    (and cs).HasCanonicalValues ↔ ∀ c ∈ cs, c.HasCanonicalValues := forall_mem_childrenLeaves

/-- The values of a disjunction are those of its children. -/
theorem hasCanonicalValues_or {cs : List Condition} :
    (or cs).HasCanonicalValues ↔ ∀ c ∈ cs, c.HasCanonicalValues := forall_mem_childrenLeaves

/-! ### Encoding -/

/-- Wire forms are taken one by one. -/
theorem listToJson_eq_map (cs : List Condition) : listToJson cs = cs.map toJson := by
  induction cs with
  | nil => rfl
  | cons c cs ih => rw [listToJson, ih, List.map_cons]

/-- An object with one member is decoded to what this member makes. -/
theorem decode_singleton (key : ConditionKey) {v : Json} {a : key.Content} {c : Condition}
    (hread : key.read m (.ofValue v) = .ok (some a))
    (hmakes : (({} : ConditionDraft).set key (some a)).Makes c) :
    decode m (.ofValue (.obj [(key.name, v)])) = .ok c := by
  have hnodup : ([(key.name, v)].map (·.1)).Nodup := List.pairwise_singleton _ _
  refine (decode_obj_eq_ok_iff hnodup).2 ⟨_, fun other => ?_, hmakes⟩
  by_cases hne : other = key
  · subst hne
    rw [ReadsAt, List.lookup_cons_self]
    exact ⟨some a, hread, ConditionDraft.get_set_self⟩
  · have hname : (other.name == key.name) = false :=
      beq_false_of_ne fun h => hne (ConditionKey.name_injective h)
    rw [ReadsAt, List.lookup_cons, hname, List.lookup_nil]
    exact ConditionDraft.get_set_of_ne hne

/-- Operands that are recovered each are recovered together. -/
theorem decodeOperands_listToJson {cs : List Condition}
    (h : ∀ c ∈ cs, decode m (.ofValue c.toJson) = .ok c) :
    decodeOperands m (.ofValue (.arr (listToJson cs))) = .ok (some cs) := by
  refine decodeOperands_ofValue_eq_ok_iff.2 ⟨_, rfl, ?_⟩
  rw [listToJson_eq_map, List.forall₂_map_left_iff]
  exact List.forall₂_same.2 h

/-- A condition is not written as null. -/
theorem toJson_ne_null (c : Condition) : c.toJson ≠ .null := by
  cases c <;> exact nofun

/-- The members of a leaf by their keys. -/
theorem lookup_leafMembers (l : ConditionLeaf) (key : ConditionKey) :
    (leafMembers l).lookup key.name =
      match key with
      | .field => some (.str l.field)
      | .operator => some (.str l.operator.name)
      | .value => l.value
      | _ => none := by
  rw [leafMembers]
  cases l.value <;> cases key <;> rfl

/-- The members of a leaf stand in the order of their keys. -/
theorem isAscending_leafMembers (l : ConditionLeaf) : Ordered.IsAscending (leafMembers l) := by
  have hfield : "field" < "operator" := by decide
  have hoperator : "operator" < "value" := by decide
  rw [leafMembers, Ordered.IsAscending]
  cases l.value with
  | none => exact .cons (List.forall_mem_singleton.2 hfield) (List.pairwise_singleton _ _)
  | some v =>
    have hvalue : "field" < "value" := String.lt_trans hfield hoperator
    exact .cons (List.forall_mem_cons.2 ⟨hfield, List.forall_mem_singleton.2 hvalue⟩)
      (.cons (List.forall_mem_singleton.2 hoperator) (List.pairwise_singleton _ _))

/-- The draft of the wire form of a leaf. -/
def leafDraft (l : ConditionLeaf) : ConditionDraft :=
  { field := some (some l.field), operator := some (some l.operator), value := l.value.map some }

/-- The wire form of a leaf is read into its draft. -/
theorem readsAt_leafDraft {l : ConditionLeaf}
    (hvalue : ∀ v, l.value = some v → v.IsCanonical ∧ v ≠ .null) (key : ConditionKey) :
    ReadsAt m (leafMembers l) {} (leafDraft l) key := by
  rw [ReadsAt, lookup_leafMembers]
  cases key with
  | field => exact ⟨_, ConditionKey.read_field_eq_ok_iff.2 rfl, rfl⟩
  | operator => exact ⟨_, ConditionKey.read_operator_name, rfl⟩
  | value =>
    cases hgiven : l.value with
    | none => exact congrArg (Option.map some) hgiven
    | some v =>
      obtain ⟨hcanonical, hnull⟩ := hvalue v hgiven
      exact ⟨_, ConditionKey.read_value_of_isCanonical hcanonical hnull,
        congrArg (Option.map some) hgiven⟩
  | _ => rfl

/-- The draft of a well-formed leaf makes the leaf. -/
theorem makes_leafDraft {l : ConditionLeaf} (hl : l.isWellFormed = true) :
    (leafDraft l).Makes (.leaf l) := by
  have haccepts : l.operator.accepts l.value = true := (Bool.and_eq_true_iff.1 hl).2
  have hheld : (leafDraft l).held .value = l.value := by
    cases hgiven : l.value <;> simp [ConditionDraft.held, ConditionDraft.get, leafDraft, hgiven]
  refine .leaf rfl rfl (ConditionDraft.toLeaf_eq_ok_iff.2 ⟨hl, rfl, rfl, ?_⟩)
  rw [hheld, ConditionDraft.keptValue_of_accepts haccepts]

/-- A well-formed leaf is recovered from its wire form. -/
theorem decode_leafMembers {l : ConditionLeaf} (hl : l.isWellFormed = true)
    (hvalue : ∀ v, l.value = some v → v.IsCanonical) :
    decode m (.ofValue (.obj (leafMembers l))) = .ok (.leaf l) := by
  have haccepts : l.operator.accepts l.value = true := (Bool.and_eq_true_iff.1 hl).2
  refine (decode_obj_eq_ok_iff (isAscending_leafMembers l).nodup).2
    ⟨leafDraft l, readsAt_leafDraft fun v hv => ⟨hvalue v hv, ?_⟩, makes_leafDraft hl⟩
  rintro rfl
  exact ConditionDraft.ne_some_null_of_accepts haccepts hv

/-- A well-formed condition is recovered from its wire form. -/
theorem decode_toJson {c : Condition} (hwf : c.WellFormed) (hvalues : c.HasCanonicalValues) :
    decode m (.ofValue c.toJson) = .ok c := by
  induction hwf with
  | leaf hl => exact decode_leafMembers hl (hvalues _ (List.mem_singleton.2 rfl))
  | and hne _ ih =>
    rw [hasCanonicalValues_and] at hvalues
    have hchildren := decodeOperands_listToJson (m := m) fun c hc => ih c hc (hvalues c hc)
    exact decode_singleton .and hchildren (.and rfl rfl rfl rfl hne)
  | or hne _ ih =>
    rw [hasCanonicalValues_or] at hvalues
    have hchildren := decodeOperands_listToJson (m := m) fun c hc => ih c hc (hvalues c hc)
    exact decode_singleton .or hchildren (.or rfl rfl rfl rfl hne)
  | not _ ih =>
    have hinner := (ConditionKey.read_not_eq_ok_iff (toJson_ne_null _)).2 (ih hvalues)
    exact decode_singleton .not hinner (.not rfl rfl rfl rfl)

mutual

/-- The wire form of a condition is canonical. -/
theorem isCanonical_toJson : ∀ c : Condition, c.HasCanonicalValues → c.toJson.IsCanonical
  | leaf l, h => .obj (isAscending_leafMembers l) <| by
    have hvalue := h l List.mem_cons_self
    rw [leafMembers]
    cases hgiven : l.value with
    | none => simp [Json.IsCanonical.str]
    | some v => simp [Json.IsCanonical.str, hvalue v hgiven]
  | and cs, h =>
    .obj (List.pairwise_singleton _ _) <| List.forall_mem_singleton.2 <|
      .arr (isCanonical_listToJson cs (hasCanonicalValues_and.1 h))
  | or cs, h =>
    .obj (List.pairwise_singleton _ _) <| List.forall_mem_singleton.2 <|
      .arr (isCanonical_listToJson cs (hasCanonicalValues_or.1 h))
  | not inner, h =>
    .obj (List.pairwise_singleton _ _) (List.forall_mem_singleton.2 (isCanonical_toJson inner h))

/-- The wire forms of several conditions are canonical. -/
theorem isCanonical_listToJson : ∀ cs : List Condition, (∀ c ∈ cs, c.HasCanonicalValues) →
    ∀ v ∈ listToJson cs, v.IsCanonical
  | [], _ => nofun
  | c :: cs, h => by
    obtain ⟨hfirst, hrest⟩ := List.forall_mem_cons.1 h
    exact List.forall_mem_cons.2 ⟨isCanonical_toJson c hfirst, isCanonical_listToJson cs hrest⟩

end

end Condition

/-! ### What is decoded is well formed -/

/-- What decoding guarantees of the content under a key. -/
def ConditionKey.IsSound : (key : ConditionKey) → key.Content → Prop
  | .value, v => v.IsCanonical
  | .and, cs => ∀ c ∈ cs, c.IsSound
  | .or, cs => ∀ c ∈ cs, c.IsSound
  | .not, c => c.IsSound
  | _, _ => True

namespace ConditionDraft

variable {s : ConditionDraft} {key : ConditionKey}

/-- Whatever the draft holds is as decoding guarantees it. -/
def IsSound (s : ConditionDraft) : Prop :=
  ∀ (key : ConditionKey) a, s.held key = some a → key.IsSound a

/-- An empty draft holds nothing. -/
theorem isSound_empty : ({} : ConditionDraft).IsSound := by
  intro key a h
  rw [held, get_empty] at h
  cases h

/-- Setting content of which the guarantee holds keeps it for the draft. -/
theorem IsSound.set (hs : s.IsSound) {a : Option key.Content}
    (ha : ∀ b, a = some b → key.IsSound b) : (s.set key a).IsSound := by
  intro other b h
  by_cases hne : other = key
  · subst hne
    rw [held, get_set_self, Option.join_some] at h
    exact ha b h
  · rw [held, get_set_of_ne hne] at h
    exact hs other b h

/-- A draft of sound content makes sound conditions. -/
theorem IsSound.of_makes (hs : s.IsSound) {c : Condition} (h : s.Makes c) : c.IsSound := by
  cases h with
  | leaf _ _ hl =>
    obtain ⟨hwf, _, _, hkept⟩ := toLeaf_eq_ok_iff.1 hl
    refine ⟨.leaf hwf, List.forall_mem_singleton.2 fun v hv => ?_⟩
    rw [hkept, keptValue] at hv
    split at hv
    · cases hv
    · exact hs .value v hv
  | and _ _ _ hand hne =>
    have heach := hs .and _ hand
    exact ⟨.and hne fun c hc => (heach c hc).wellFormed,
      Condition.hasCanonicalValues_and.2 fun c hc => (heach c hc).canonical⟩
  | or _ _ _ hor hne =>
    have heach := hs .or _ hor
    exact ⟨.or hne fun c hc => (heach c hc).wellFormed,
      Condition.hasCanonicalValues_or.2 fun c hc => (heach c hc).canonical⟩
  | not _ _ _ hnot =>
    have hinner := hs .not _ hnot
    exact ⟨.not hinner.wellFormed, hinner.canonical⟩

end ConditionDraft

namespace Condition

variable {m : Medium}

/-- What is read under a key is sound, if the conditions in it are. -/
theorem isSound_of_read {key : ConditionKey} {d : Document}
    (hoperands : ∀ cs, decodeOperands m d = .ok (some cs) → ∀ c ∈ cs, c.IsSound)
    (hoperand : ∀ c, decode m d = .ok c → c.IsSound) {a : key.Content}
    (h : key.read m d = .ok (some a)) : key.IsSound a := by
  cases key with
  | field => trivial
  | operator => trivial
  | value =>
    obtain ⟨_, hread⟩ := Decoder.optional_eq_ok_some_iff.1 h
    exact Document.isCanonical_of_toValue? d (Decoder.value_eq_ok_iff.1 hread)
  | and => exact hoperands a h
  | or => exact hoperands a h
  | not =>
    rw [ConditionKey.read] at h
    split at h
    · cases h
    · obtain ⟨c, hc, hsome⟩ := Except.map_eq_ok_iff.1 h
      exact Option.some.inj hsome ▸ hoperand c hc

/-- Reading a member leaves the draft as it is or sets what is read under a key. -/
theorem eq_or_exists_read_of_fillMember {name : Option String} {d : Document}
    {s t : ConditionDraft}
    (h : s.fillMember m name d (fun _ => decodeOperands m d)
      (fun _ => if isNull d then .ok none else (decode m d).map some) = .ok t) :
    t = s ∨ ∃ (key : ConditionKey) (a : Option key.Content),
      key.read m d = .ok a ∧ t = s.set key a := by
  unfold ConditionDraft.fillMember at h
  split at h
  · cases h
  split at h
  · split at h
    · exact .inl (Except.ok.inj h).symm
    · cases h
  next key _ =>
  split at h
  · cases h
  · rw [ConditionDraft.fill_eq, Except.map_eq_ok_iff] at h
    obtain ⟨a, hread, ht⟩ := h
    exact .inr ⟨key, a, hread, ht.symm⟩

mutual

/-- A condition that is decoded is sound. -/
theorem isSound_of_decode : ∀ (d : Document) {c : Condition}, decode m d = .ok c → c.IsSound
  | .object members, c, h => by
    obtain ⟨s, hs, hc⟩ := Except.bind_eq_ok_iff.1 h
    rw [ConditionDraft.finish, Except.mapError_eq_ok_iff, ConditionDraft.toCondition_eq_ok_iff]
      at hc
    exact (isSound_of_decodeMembers members ConditionDraft.isSound_empty hs).of_makes hc
  | .array items, c, h => by
    obtain ⟨s, hs, hc⟩ := Except.bind_eq_ok_iff.1 h
    rw [ConditionDraft.finish, Except.mapError_eq_ok_iff, ConditionDraft.toCondition_eq_ok_iff]
      at hc
    exact (isSound_of_decodeItems items ConditionDraft.isSound_empty hs).of_makes hc
  | .null, _, h | .bool _, _, h | .number _, _, h | .text _, _, h | .refused, _, h
  | .broken, _, h | .misplaced _, _, h => nomatch h

/-- Operands that are decoded are sound. -/
theorem isSound_of_decodeOperands : ∀ (d : Document) {cs : List Condition},
    decodeOperands m d = .ok (some cs) → ∀ c ∈ cs, c.IsSound
  | .array items, cs, h => by
    rw [decodeOperands, Except.map_eq_ok_iff] at h
    obtain ⟨_, h, hsome⟩ := h
    obtain rfl := Option.some.inj hsome
    exact isSound_of_decodeList items h
  | .null, _, h | .bool _, _, h | .number _, _, h | .text _, _, h | .object _, _, h
  | .refused, _, h | .broken, _, h | .misplaced _, _, h => nomatch h

/-- Nodes that are decoded are sound. -/
theorem isSound_of_decodeList : ∀ (ds : List Document) {cs : List Condition},
    decodeList m ds = .ok cs → ∀ c ∈ cs, c.IsSound
  | [], _, h => by
    obtain rfl := Except.ok.inj h
    exact nofun
  | d :: ds, _, h => by
    obtain ⟨c, hc, h⟩ := Except.bind_eq_ok_iff.1 h
    obtain ⟨cs, hcs, h⟩ := Except.bind_eq_ok_iff.1 h
    obtain rfl := Except.ok.inj h
    exact List.forall_mem_cons.2 ⟨isSound_of_decode d hc, isSound_of_decodeList ds hcs⟩

/-- Reading members keeps a draft sound. -/
theorem isSound_of_decodeMembers : ∀ (members : List (Option String × Document))
    {s t : ConditionDraft}, s.IsSound → decodeMembers m members s = .ok t → t.IsSound
  | [], s, t, hs, h => Except.ok.inj h ▸ hs
  | (name, d) :: rest, s, t, hs, h => by
    rw [decodeMembers, Except.bind_eq_ok_iff] at h
    obtain ⟨u, hu, h⟩ := h
    obtain rfl | ⟨key, a, hread, rfl⟩ := eq_or_exists_read_of_fillMember hu
    · exact isSound_of_decodeMembers rest hs h
    · refine isSound_of_decodeMembers rest (hs.set ?_) h
      rintro b rfl
      exact isSound_of_read (fun _ => isSound_of_decodeOperands d) (fun _ => isSound_of_decode d)
        hread

/-- Reading items keeps a draft sound. -/
theorem isSound_of_decodeItems {total : Nat} : ∀ (items : List Document)
    {keys : List ConditionKey} {s t : ConditionDraft}, s.IsSound →
      decodeItems m total keys items s = .ok t → t.IsSound
  | [], _, s, t, hs, h => by
    rw [decodeItems] at h
    exact Except.ok.inj h ▸ hs
  | _ :: _, [], _, _, _, h => nomatch h
  | d :: ds, key :: keys, s, t, hs, h => by
    rw [decodeItems, ConditionDraft.fill_eq, Except.bind_eq_ok_iff] at h
    obtain ⟨u, hu, h⟩ := h
    obtain ⟨a, hread, rfl⟩ := Except.map_eq_ok_iff.1 hu
    refine isSound_of_decodeItems ds (hs.set ?_) h
    rintro b rfl
    exact isSound_of_read (fun _ => isSound_of_decodeOperands d) (fun _ => isSound_of_decode d)
      hread

end

/-! ### The wire form -/

/-- The conditions that are decoded are the sound ones; a sound condition is recovered from its
wire form, so decoding, encoding and decoding again is decoding once; and an object is decoded
exactly if it is a node. -/
theorem wire_form :
    (∀ v c, ofJson v = .ok c → c.IsSound) ∧
    (∀ c : Condition, c.IsSound → c.toJson.IsCanonical ∧ ofJson c.toJson = .ok c) ∧
    (∀ v c, ofJson v = .ok c → ofJson c.toJson = .ok c) ∧
    ∀ members, (Json.obj members).IsCanonical →
      (IsAccepted (.obj members) ↔ IsNode (.obj members)) := by
  have hdecode : ∀ v c, ofJson v = .ok c → c.IsSound := fun v _ => isSound_of_decode (.ofValue v)
  have hencode : ∀ c : Condition, c.IsSound → ofJson c.toJson = .ok c :=
    fun _ hc => decode_toJson hc.wellFormed hc.canonical
  exact ⟨hdecode, fun c hc => ⟨isCanonical_toJson c hc.canonical, hencode c hc⟩,
    fun v c h => hencode c (hdecode v c h), fun _ => isAccepted_obj_iff⟩

/-- A negated presence test that is written with a value. -/
def absenceWithValue : Json :=
  .obj [("not", .obj [("field", .str "isin"), ("operator", .str "exists"),
    ("value", .bool true)])]

/-- The value of a presence test is dropped; without it the condition is recovered. -/
theorem absenceWithValue_wire_form :
    ofJson absenceWithValue = .ok (.not (fieldExists "isin")) ∧
    (Condition.not (fieldExists "isin")).IsSound ∧
    ofJson (Condition.not (fieldExists "isin")).toJson = .ok (.not (fieldExists "isin")) ∧
    IsNode absenceWithValue := by
  have hdecode : ofJson absenceWithValue = .ok (.not (fieldExists "isin")) := rfl
  have hcanonical : absenceWithValue.IsCanonical :=
    isCanonical_toJson (.not (.leaf ⟨"isin", .exists, some (.bool true)⟩)) <|
      List.forall_mem_singleton.2 fun _ h => Option.some.inj h ▸ .bool true
  exact ⟨hdecode, wire_form.1 _ _ hdecode, wire_form.2.2.1 _ _ hdecode,
    (wire_form.2.2.2 _ hcanonical).1 ⟨_, hdecode⟩⟩

/-- A leaf whose operator is written as an object. -/
def operatorAsObject : Json :=
  .obj [("field", .str "isin"), ("operator", .obj [("exists", .null)])]

/-- A leaf is decoded whose operator is given as something else than a name. -/
theorem operatorAsObject_accepted :
    operatorAsObject.IsCanonical ∧ ofJson operatorAsObject = .ok (fieldExists "isin") ∧
    ∀ op : Operator, ConditionKey.operator.given? operatorAsObject ≠ some (.str op.name) := by
  have hkeys : "field" < "operator" := by decide
  have hoperator : (Json.obj [("exists", .null)]).IsCanonical :=
    .obj (List.pairwise_singleton _ _) (List.forall_mem_singleton.2 .null)
  refine ⟨.obj ?_ ?_, rfl, fun op => nofun⟩
  · exact .cons (List.forall_mem_singleton.2 hkeys) (List.pairwise_singleton _ _)
  · exact List.forall_mem_cons.2 ⟨.str _, List.forall_mem_singleton.2 hoperator⟩

end Condition

end RegulatoryReporting
