import RegulatoryReporting.Condition.Wire

/-!
# Drafts of Conditions

A node of a condition is read into a draft with six places, each for another type of content,
before its kind is known. This module treats the places alike: a draft is a function from
keys to contents (`ConditionDraft.get`), and reading a member sets it at one key
(`ConditionDraft.fill_eq`). So the draft of an object is known key by key, whatever the order
of its members, and a draft makes a condition in four ways, one for each kind of node.

## Main results

* `Condition.decodeMembers_eq_ok_iff` — the draft of an object, key by key.
* `ConditionDraft.toLeaf_eq_ok_iff` — which leaf a draft makes.
* `ConditionDraft.toCondition_eq_ok_iff` — which condition a draft makes.
-/

namespace RegulatoryReporting

/-! ### Keys -/

namespace ConditionKey

/-- A text names a key exactly when it is its name. -/
theorem ofName?_eq_some_iff {s : String} {key : ConditionKey} :
    ofName? s = some key ↔ s = key.name := by
  constructor
  · intro h
    rw [ofName?] at h
    have hname := List.find?_some h
    exact (beq_iff_eq.1 hname).symm
  · rintro rfl
    cases key <;> rfl

/-- Keys of one name are one key. -/
theorem name_injective {key other : ConditionKey} (h : key.name = other.name) : key = other :=
  Option.some.inj ((ofName?_eq_some_iff.2 rfl).symm.trans (ofName?_eq_some_iff.2 h))

/-- What a node may hold under a key. -/
abbrev Content : ConditionKey → Type
  | field => String
  | operator => Operator
  | value => Json
  | .and => List Condition
  | .or => List Condition
  | .not => Condition

/-- The keys that tell the kind of a node. -/
def kinds : List ConditionKey := [field, .and, .or, .not]

/-- Read the document under a key, null counting as missing. -/
def read (m : Medium) (d : Document) :
    (key : ConditionKey) → Except DecodeError (Option key.Content)
  | field => Decoder.optional Decoder.string m d
  | operator => Decoder.optional (Decoder.name Operator.wireNames) m d
  | value => Decoder.optional Decoder.value m d
  | .and => Condition.decodeOperands m d
  | .or => Condition.decodeOperands m d
  | .not => if Condition.isNull d then .ok none else (Condition.decode m d).map some

end ConditionKey

/-! ### Places -/

namespace ConditionDraft

/-- What a draft has at a key. -/
def get (s : ConditionDraft) : (key : ConditionKey) → Option (Option key.Content)
  | .field => s.field
  | .operator => s.operator
  | .value => s.value
  | .and => s.and
  | .or => s.or
  | .not => s.not

/-- The draft with something else at a key. -/
def set (s : ConditionDraft) : (key : ConditionKey) → Option key.Content → ConditionDraft
  | .field, a => { s with field := some a }
  | .operator, a => { s with operator := some a }
  | .value, a => { s with value := some a }
  | .and, a => { s with and := some a }
  | .or, a => { s with or := some a }
  | .not, a => { s with not := some a }

/-- What a draft holds at a key, if that was read and is not null. -/
def held (s : ConditionDraft) (key : ConditionKey) : Option key.Content := (s.get key).join

variable {s t : ConditionDraft} {key other : ConditionKey} {a : Option key.Content}

/-- A key was read exactly when there is something at it. -/
theorem has_eq : s.has key = (s.get key).isSome := by
  cases key <;> rfl

/-- What was set at a key is there. -/
theorem get_set_self : (s.set key a).get key = some a := by
  cases key <;> rfl

/-- Other keys are not touched. -/
theorem get_set_of_ne (h : other ≠ key) : (s.set key a).get other = s.get other := by
  cases key <;> cases other <;> first | rfl | exact absurd rfl h

/-- A draft is what it has at its keys. -/
theorem ext_get (h : ∀ key, s.get key = t.get key) : s = t := by
  obtain ⟨field, operator, value, and, or, not⟩ := s
  obtain rfl := h .field
  obtain rfl := h .operator
  obtain rfl := h .value
  obtain rfl := h .and
  obtain rfl := h .or
  obtain rfl := h .not
  rfl

/-- An empty draft has nothing at any key. -/
theorem get_empty : ({} : ConditionDraft).get key = none := by
  cases key <;> rfl

/-- Filling a draft reads the document and sets what was read. -/
theorem fill_eq (m : Medium) (d : Document) :
    s.fill m key d (fun _ => Condition.decodeOperands m d)
      (fun _ => if Condition.isNull d then .ok none else (Condition.decode m d).map some) =
    (key.read m d).map (s.set key) := by
  cases key <;> rfl

/-! ### Kinds -/

/-- The kinds of a draft are the keys among those that tell a kind at which it holds
something. -/
theorem kinds_eq_filter : s.kinds = ConditionKey.kinds.filter fun key => (s.held key).isSome := by
  have hfield : s.field.join = s.held .field := rfl
  have hand : s.and.join = s.held .and := rfl
  have hor : s.or.join = s.held .or := rfl
  have hnot : s.not.join = s.held .not := rfl
  rw [kinds, ConditionKey.kinds, hfield, hand, hor, hnot]
  cases hfield : (s.held .field).isSome <;> cases hand : (s.held .and).isSome <;>
    cases hor : (s.held .or).isSome <;> cases hnot : (s.held .not).isSome <;>
    simp [hfield, hand, hor, hnot]

/-- A draft of one kind holds nothing at a key that tells another. -/
theorem eq_of_kinds_eq_singleton (h : s.kinds = [key]) (hkind : other ∈ ConditionKey.kinds)
    {b : other.Content} (hheld : s.held other = some b) : other = key := by
  have hmem : other ∈ s.kinds := by
    rw [kinds_eq_filter]
    exact List.mem_filter.2 ⟨hkind, by rw [hheld, Option.isSome_some]⟩
  rw [h] at hmem
  exact List.mem_singleton.1 hmem

/-- A draft of one kind holds nothing at any other key that tells a kind. -/
theorem held_eq_none_of_kinds_eq_singleton (h : s.kinds = [key]) (other : ConditionKey)
    (hkind : other ∈ ConditionKey.kinds) (hne : other ≠ key) : s.held other = none := by
  cases hheld : s.held other with
  | none => rfl
  | some b => exact absurd (eq_of_kinds_eq_singleton h hkind hheld) hne

/-! ### Leaves -/

/-- What a leaf keeps of the value that it was given: a presence test has none. -/
def keptValue (op : Operator) (value : Option Json) : Option Json :=
  if op.isPresence then none else value

/-- Whether a field with an operator is a leaf depends on what is kept of its value. -/
theorem toLeaf_of_operator {field : String} {op : Operator} {value : Option Json}
    (hfield : Text.isBlank field = false) :
    (toLeaf field (some op) value).toOption =
      if op.accepts (keptValue op value) then some ⟨field, op, keptValue op value⟩ else none := by
  unfold toLeaf
  rw [hfield]
  cases op <;> rcases value with _ | v <;>
    first | rfl | (cases v <;> rfl)

/-- A leaf is made exactly when it is well formed and keeps what was given. -/
theorem toLeaf_eq_ok_iff {field : String} {operator : Option Operator} {value : Option Json}
    {l : ConditionLeaf} :
    toLeaf field operator value = .ok l ↔
      l.isWellFormed = true ∧ l.field = field ∧ operator = some l.operator ∧
        l.value = keptValue l.operator value := by
  have hok : toLeaf field operator value = .ok l ↔
      (toLeaf field operator value).toOption = some l := by
    cases toLeaf field operator value <;> simp [Except.toOption]
  rw [hok, ConditionLeaf.isWellFormed, Bool.and_eq_true, Bool.not_eq_true']
  cases hblank : Text.isBlank field with
  | true =>
    simp only [toLeaf, hblank, if_true, Except.toOption, reduceCtorEq, false_iff]
    rintro ⟨⟨hfield, _⟩, rfl, _⟩
    rw [hblank] at hfield
    cases hfield
  | false =>
    cases operator with
    | none => simp [toLeaf, hblank, Except.toOption]
    | some op =>
      rw [toLeaf_of_operator hblank]
      constructor
      · intro h
        obtain ⟨haccepts, h⟩ := Option.ite_none_right_eq_some.1 h
        obtain rfl := Option.some.inj h
        exact ⟨⟨hblank, haccepts⟩, rfl, rfl, rfl⟩
      · rintro ⟨⟨_, haccepts⟩, rfl, hop, hkept⟩
        obtain rfl := Option.some.inj hop
        rw [hkept] at haccepts
        rw [if_pos haccepts, ← hkept]

/-- No operator demands null as its value. -/
theorem ne_some_null_of_accepts {op : Operator} {value : Option Json}
    (h : op.accepts value = true) : value ≠ some .null := by
  rintro rfl
  cases op <;> cases h

/-- What an operator demands is kept. -/
theorem keptValue_of_accepts {op : Operator} {value : Option Json}
    (h : op.accepts value = true) : keptValue op value = value := by
  cases op <;> cases value <;> first | rfl | cases h

/-- What is kept of the value of a leaf is what the operator demands exactly if the operator
asks for presence only or was given what it demands. -/
theorem accepts_keptValue_iff {op : Operator} {value : Option Json} :
    op.accepts (keptValue op value) = true ↔
      op.isPresence = true ∨ op.accepts value = true := by
  rw [keptValue]
  cases hpresence : op.isPresence with
  | true =>
    have hnone : op.accepts none = true := by
      cases op <;> first | rfl | cases hpresence
    simp [hnone]
  | false => simp

/-! ### Conditions -/

/-- How a draft makes a condition, by the only key that tells its kind. -/
inductive Makes (s : ConditionDraft) : Condition → Prop
  | leaf {field : String} {l : ConditionLeaf} (kind : s.kinds = [.field])
      (here : s.held .field = some field)
      (h : toLeaf field (s.held .operator) (s.held .value) = .ok l) : Makes s (.leaf l)
  | and {children : List Condition} (kind : s.kinds = [.and])
      (no_operator : s.held .operator = none) (no_value : s.held .value = none)
      (here : s.held .and = some children) (some_child : children ≠ []) : Makes s (.and children)
  | or {children : List Condition} (kind : s.kinds = [.or])
      (no_operator : s.held .operator = none) (no_value : s.held .value = none)
      (here : s.held .or = some children) (some_child : children ≠ []) : Makes s (.or children)
  | not {inner : Condition} (kind : s.kinds = [.not])
      (no_operator : s.held .operator = none) (no_value : s.held .value = none)
      (here : s.held .not = some inner) : Makes s (.not inner)

/-- A list of operands is accepted as it is unless it is empty. -/
theorem toOperands_eq_ok_iff {children operands : List Condition} :
    toOperands key children = .ok operands ↔ operands = children ∧ children ≠ [] := by
  cases children with
  | nil => simp [toOperands]
  | cons c cs => simp [toOperands, eq_comm]

/-- What is made once a draft is of one kind. -/
theorem toCondition_of_kinds_eq_singleton (h : s.kinds = [key]) :
    s.toCondition =
      match s.held .field with
      | some field => (toLeaf field (s.held .operator) (s.held .value)).map .leaf
      | none =>
        if (s.held .operator).isSome then .error (.strayKey ConditionKey.operator.name)
        else if (s.held .value).isSome then .error (.strayKey ConditionKey.value.name)
        else
          match s.held .and, s.held .or, s.held .not with
          | some children, _, _ => (toOperands .and children).map .and
          | none, some children, _ => (toOperands .or children).map .or
          | none, none, some inner => .ok (.not inner)
          | none, none, none => .error .noKind := by
  unfold toCondition
  rw [h]
  rfl

/-- A draft makes the condition that its only kind calls for. -/
theorem toCondition_eq_ok_iff {c : Condition} : s.toCondition = .ok c ↔ s.Makes c := by
  constructor
  · intro h
    obtain ⟨key, hkind⟩ : ∃ key, s.kinds = [key] := by
      unfold toCondition at h
      split at h
      · cases h
      next key hkind => exact ⟨key, hkind⟩
      · cases h
    rw [toCondition_of_kinds_eq_singleton hkind] at h
    cases hfield : s.held .field with
    | some field =>
      obtain rfl := eq_of_kinds_eq_singleton hkind (by decide) hfield
      simp only [hfield, Except.map_eq_ok_iff] at h
      obtain ⟨l, hl, rfl⟩ := h
      exact .leaf hkind hfield hl
    | none =>
      simp only [hfield] at h
      split at h
      · cases h
      next hoperator =>
      split at h
      · cases h
      next hvalue =>
      rw [Option.not_isSome_iff_eq_none] at hoperator hvalue
      cases hand : s.held .and with
      | some children =>
        obtain rfl := eq_of_kinds_eq_singleton hkind (by decide) hand
        simp only [hand, Except.map_eq_ok_iff, toOperands_eq_ok_iff] at h
        obtain ⟨_, ⟨rfl, hne⟩, rfl⟩ := h
        exact .and hkind hoperator hvalue hand hne
      | none =>
      cases hor : s.held .or with
      | some children =>
        obtain rfl := eq_of_kinds_eq_singleton hkind (by decide) hor
        simp only [hand, hor, Except.map_eq_ok_iff, toOperands_eq_ok_iff] at h
        obtain ⟨_, ⟨rfl, hne⟩, rfl⟩ := h
        exact .or hkind hoperator hvalue hor hne
      | none =>
      cases hnot : s.held .not with
      | some inner =>
        obtain rfl := eq_of_kinds_eq_singleton hkind (by decide) hnot
        simp only [hand, hor, hnot] at h
        obtain rfl := Except.ok.inj h
        exact .not hkind hoperator hvalue hnot
      | none =>
        simp only [hand, hor, hnot] at h
        cases h
  · intro h
    cases h with
    | leaf hkind hfield hl =>
      rw [toCondition_of_kinds_eq_singleton hkind]
      simp only [hfield, hl]
      rfl
    | and hkind hoperator hvalue hand hne =>
      have hfield := held_eq_none_of_kinds_eq_singleton hkind .field (by decide) nofun
      rw [toCondition_of_kinds_eq_singleton hkind]
      simp only [hfield, hoperator, hvalue, hand, toOperands_eq_ok_iff.2 ⟨rfl, hne⟩]
      rfl
    | or hkind hoperator hvalue hor hne =>
      have hfield := held_eq_none_of_kinds_eq_singleton hkind .field (by decide) nofun
      have hand := held_eq_none_of_kinds_eq_singleton hkind .and (by decide) nofun
      rw [toCondition_of_kinds_eq_singleton hkind]
      simp only [hfield, hoperator, hvalue, hand, hor, toOperands_eq_ok_iff.2 ⟨rfl, hne⟩]
      rfl
    | not hkind hoperator hvalue hnot =>
      have hfield := held_eq_none_of_kinds_eq_singleton hkind .field (by decide) nofun
      have hand := held_eq_none_of_kinds_eq_singleton hkind .and (by decide) nofun
      have hor := held_eq_none_of_kinds_eq_singleton hkind .or (by decide) nofun
      rw [toCondition_of_kinds_eq_singleton hkind]
      simp only [hfield, hoperator, hvalue, hand, hor, hnot]
      rfl

end ConditionDraft

/-! ### Objects -/

namespace Condition

variable {m : Medium} {members : List (String × Json)} {s t : ConditionDraft}

/-- After the members of an object were read, a draft has at a key what the member under it
reads as, and without such a member what it had before. -/
def ReadsAt (m : Medium) (members : List (String × Json)) (s t : ConditionDraft)
    (key : ConditionKey) : Prop :=
  match members.lookup key.name with
  | none => t.get key = s.get key
  | some v => ∃ a, key.read m (.ofValue v) = .ok a ∧ t.get key = some a

/-- A member under another name leaves the draft as it is. -/
theorem fillMember_of_ofName?_eq_none {name : String} (hname : ConditionKey.ofName? name = none)
    {v : Json} (operands : Unit → Except DecodeError (Option (List Condition)))
    (operand : Unit → Except DecodeError (Option Condition)) :
    s.fillMember m (some name) (.ofValue v) operands operand = .ok s := by
  rw [ConditionDraft.fillMember]
  simp only [hname]
  rw [if_pos (Document.isWellFormed_ofValue v)]

/-- A member under a key at which nothing was read is read and set. -/
theorem fillMember_of_get_eq_none {key : ConditionKey} (hkey : s.get key = none) (d : Document) :
    s.fillMember m (some key.name) d (fun _ => decodeOperands m d)
      (fun _ => if isNull d then .ok none else (decode m d).map some) =
    (key.read m d).map (s.set key) := by
  have hname : ConditionKey.ofName? key.name = some key := ConditionKey.ofName?_eq_some_iff.2 rfl
  have hhas : s.has key = false := by rw [ConditionDraft.has_eq, hkey, Option.isSome_none]
  rw [ConditionDraft.fillMember]
  simp only [hname, hhas, Bool.false_eq_true, if_false]
  exact ConditionDraft.fill_eq m d

/-- The draft of an object whose keys differ is known key by key, if it was empty at the keys
that occur. -/
theorem decodeMembers_eq_ok_iff (hnodup : (members.map (·.1)).Nodup)
    (hfree : ∀ key : ConditionKey, members.lookup key.name ≠ none → s.get key = none) :
    decodeMembers m (Document.ofMembers members) s = .ok t ↔
      ∀ key, ReadsAt m members s t key := by
  induction members generalizing s with
  | nil =>
    rw [Document.ofMembers, decodeMembers]
    constructor
    · intro h key
      rw [← Except.ok.inj h]
      rfl
    · intro h
      rw [ConditionDraft.ext_get fun key => (h key).symm]
  | cons member rest ih =>
    obtain ⟨name, v⟩ := member
    obtain ⟨hfirst, hrest⟩ := List.nodup_cons.1 hnodup
    have hskip : ∀ key : ConditionKey, key.name ≠ name →
        ((name, v) :: rest).lookup key.name = rest.lookup key.name := by
      intro key hne
      rw [List.lookup_cons, beq_false_of_ne hne]
    rw [Document.ofMembers, decodeMembers]
    cases hname : ConditionKey.ofName? name with
    | none =>
      have hne : ∀ key : ConditionKey, key.name ≠ name := by
        rintro key rfl
        rw [ConditionKey.ofName?_eq_some_iff.2 rfl] at hname
        cases hname
      rw [fillMember_of_ofName?_eq_none hname]
      refine (ih hrest fun key hkey => hfree key (by rwa [hskip key (hne key)])).trans ?_
      simp only [ReadsAt, hskip _ (hne _)]
    | some key =>
      obtain rfl := ConditionKey.ofName?_eq_some_iff.1 hname
      have hother : ∀ other : ConditionKey, other ≠ key →
          ((key.name, v) :: rest).lookup other.name = rest.lookup other.name :=
        fun other hne => hskip other fun h => hne (ConditionKey.name_injective h)
      have hhere : ((key.name, v) :: rest).lookup key.name = some v := List.lookup_cons_self
      have hlater : rest.lookup key.name = none := by
        rw [List.lookup_eq_none_iff]
        intro entry hentry
        rw [bne_iff_ne]
        intro h
        exact hfirst (List.mem_map.2 ⟨entry, hentry, h.symm⟩)
      have hempty : s.get key = none := hfree key (by rw [hhere]; exact Option.some_ne_none v)
      rw [fillMember_of_get_eq_none hempty]
      cases hread : key.read m (.ofValue v) with
      | error fault =>
        constructor
        · exact nofun
        · intro h
          have hkey := h key
          rw [ReadsAt, hhere] at hkey
          obtain ⟨a, ha, _⟩ := hkey
          rw [hread] at ha
          cases ha
      | ok a =>
        have hfree' : ∀ other : ConditionKey, rest.lookup other.name ≠ none →
            (s.set key a).get other = none := by
          intro other hoccurs
          have hne : other ≠ key := by
            rintro rfl
            exact hoccurs hlater
          rw [ConditionDraft.get_set_of_ne hne]
          exact hfree other (by rwa [hother other hne])
        refine (ih hrest hfree').trans (forall_congr' fun other => ?_)
        by_cases hne : other = key
        · subst hne
          rw [ReadsAt, ReadsAt, hlater, hhere]
          simp only [hread, ConditionDraft.get_set_self, Except.ok.injEq, exists_eq_left']
        · rw [ReadsAt, ReadsAt, hother other hne, ConditionDraft.get_set_of_ne hne]

end Condition

end RegulatoryReporting
