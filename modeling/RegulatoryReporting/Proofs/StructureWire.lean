import RegulatoryReporting.Proofs.Collecting

/-!
# The Wire Form of Structures

A structure is read member by member into a draft and written as an object, its optional
members left out where they have nothing to show. This module has what the wire forms of all
structures share.

Reading back what was written is followed along the members: each step sets one place of the
draft, and a member that was left out sets none, so its place stays as empty as it was
(`Decoder.TakesTo`). What a structure holds that was read, from whichever of its two forms, is
what its slots let in: a property that every slot keeps holds of the draft in the end
(`Decoder.exists_draft_of_structured`).

## Main results

* `Decoder.takesTo_cons`, `Decoder.takesTo_optionalMember` — the steps along the members.
* `Decoder.isWireForm_structured` — members that take the empty draft to one that makes a
  structure are its wire form.
* `Decoder.exists_draft_of_structured` — what every slot keeps holds of what is read.
-/

namespace RegulatoryReporting

namespace Decoder

variable {α σ : Type}

/-! ### Single values -/

/-- A canonical value reads as `a`, in a tree and in a text. -/
structure IsWireForm (decode : Decoder α) (v : Json) (a : α) : Prop where
  canonical : v.IsCanonical
  reads : ∀ m, decode m (.ofValue v) = .ok a

/-- A text is written as a string. -/
theorem isWireForm_string (s : String) : IsWireForm string (.str s) s :=
  ⟨.str s, fun _ => rfl⟩

/-- A natural number is written as a number. -/
theorem isWireForm_count (n : Nat) : IsWireForm count (.ofNat n) n := by
  refine ⟨.num _, fun m => ?_⟩
  rw [Json.ofNat, Document.ofValue, count, if_neg (by omega), Int.toNat_natCast]

/-- What is written as a value that is not null is there. -/
theorem IsWireForm.optional {decode : Decoder α} {v : Json} {a : α} (h : IsWireForm decode v a)
    (hnull : v ≠ .null) : IsWireForm (optional decode) v (some a) := by
  refine ⟨h.canonical, fun m => optional_eq_ok_some_iff.2 ⟨?_, h.reads m⟩⟩
  cases v <;> first | exact absurd rfl hnull | exact nofun

/-- A text that may be missing is written as a string if it is there. -/
theorem isWireForm_optional_string (s : String) :
    IsWireForm (optional string) (.str s) (some s) :=
  (isWireForm_string s).optional nofun

/-- A number that may be missing is written as a number if it is there. -/
theorem isWireForm_optional_count (n : Nat) :
    IsWireForm (optional count) (.ofNat n) (some n) :=
  (isWireForm_count n).optional nofun

/-- A list is written item by item. -/
theorem isWireForm_list {decode : Decoder α} {encode : α → Json} {as : List α}
    (h : ∀ a ∈ as, IsWireForm decode (encode a) a) :
    IsWireForm (list decode) (.arr (as.map encode)) as := by
  refine ⟨.arr (List.forall_mem_map.2 fun a ha => (h a ha).canonical), fun m => ?_⟩
  rw [Document.ofValue, list]
  induction as with
  | nil => rfl
  | cons a as ih =>
    obtain ⟨hfirst, hrest⟩ := List.forall_mem_cons.1 h
    rw [List.map_cons, Document.ofItems, List.mapM_cons, hfirst.reads m, ih hrest]
    rfl

/-- Texts are written as a list of strings. -/
theorem isWireForm_strings (ss : List String) : IsWireForm (list string) (.ofStrings ss) ss :=
  isWireForm_list fun s _ => isWireForm_string s

/-- Texts that may be missing are written as a list of strings if they are there. -/
theorem isWireForm_optional_strings (ss : List String) :
    IsWireForm (optional (list string)) (.ofStrings ss) (some ss) :=
  (isWireForm_strings ss).optional nofun

/-- What a list of names has under a name is written as the name. -/
theorem isWireForm_name {names : List (String × α)} {s : String} {a : α}
    (h : names.lookup s = some a) : IsWireForm (name names) (.str s) a := by
  refine ⟨.str s, fun m => ?_⟩
  rw [Document.ofValue, name, variant, h]

/-! ### Members -/

variable {slots : List (Slot σ)} {key : String} {keys : List String} {required : Bool}
  {rest : List (String × Json)} {s t : σ}

/-- Canonical members, whose keys are some of the given ones in their order, take one draft to
another when they are read, in a tree and in a text. -/
structure TakesTo (slots : List (Slot σ)) (keys : List String) (members : List (String × Json))
    (s t : σ) : Prop where
  ordered : (members.map (·.1)).Sublist keys
  canonical : ∀ member ∈ members, member.2.IsCanonical
  reads : ∀ m, visitMembers slots m (Document.ofMembers members) s = .ok t

/-- Without members the draft stays as it is. -/
theorem takesTo_nil : TakesTo slots [] [] s s :=
  ⟨List.Sublist.refl _, List.forall_mem_nil _, fun _ => rfl⟩

/-- A slot is filled when its place is. -/
theorem filled_slot {decode : Decoder α} {get : σ → Option α} {set : σ → α → σ} :
    (slot key required decode get set).filled s = (get s).isSome := rfl

/-- Filling a slot sets what is read. -/
theorem fill_slot {decode : Decoder α} {get : σ → Option α} {set : σ → α → σ} {m : Medium}
    {d : Document} :
    (slot key required decode get set).fill m d s = (decode m d).map (set s) := rfl

/-- A member is read into the place of its slot if that is empty. -/
theorem takesTo_cons {decode : Decoder α} {get : σ → Option α} {set : σ → α → σ} {v : Json}
    {a : α} (hslot : slots.find? (·.key == key) = some (slot key required decode get set))
    (hempty : get s = none) (hv : IsWireForm decode v a)
    (h : TakesTo slots keys rest (set s a) t) :
    TakesTo slots (key :: keys) ((key, v) :: rest) s t := by
  refine ⟨h.ordered.cons_cons key, List.forall_mem_cons.2 ⟨hv.canonical, h.canonical⟩,
    fun m => ?_⟩
  simp only [Document.ofMembers, visitMembers, hslot, filled_slot, fill_slot, hempty,
    Option.isSome_none, Bool.false_eq_true, if_false, hv.reads m]
  exact h.reads m

/-- A member that may be left out sets its place to what is given: `put` is how the slot sets
it, and changes nothing where nothing is given. -/
theorem takesTo_optionalMember {decode : Decoder α} {get : σ → Option (Option α)}
    (put : σ → Option (Option α) → σ) {encode : α → Json} {given : Option α}
    (hslot : slots.find? (·.key == key) =
      some (slot key required (optional decode) get fun s a => put s (some a)))
    (hempty : get s = none) (hnothing : put s none = s)
    (hread : ∀ a, given = some a → IsWireForm (optional decode) (encode a) (some a))
    (h : TakesTo slots keys rest (put s (given.map some)) t) :
    TakesTo slots (key :: keys) (Json.optionalMember key (given.map encode) ++ rest) s t := by
  cases given with
  | none =>
    rw [Option.map_none, hnothing] at h
    exact ⟨h.ordered.cons key, h.canonical, h.reads⟩
  | some a => exact takesTo_cons hslot hempty (hread a rfl) h

/-- Members that take the empty draft to one that makes a structure, and whose keys ascend, are
the wire form of the structure. -/
theorem isWireForm_structured {name : String} {empty : σ} {finish : σ → Except DecodeError α}
    {members : List (String × Json)} {a : α} (hkeys : keys.Pairwise (· < ·))
    (hmembers : TakesTo slots keys members empty t) (hfinish : finish t = .ok a) :
    IsWireForm (structured name slots empty finish) (.obj members) a := by
  have hascending : Ordered.IsAscending members :=
    List.pairwise_map.1 (hkeys.sublist hmembers.ordered)
  refine ⟨.obj hascending hmembers.canonical, fun m => ?_⟩
  rw [Document.ofValue, structured, hmembers.reads m]
  exact hfinish

/-- A place that was set to what is given holds it. -/
theorem join_map_some (given : Option α) : (given.map some).join = given := by
  cases given <;> rfl

/-! ### What slots let in -/

variable {m : Medium}

/-- Reading the member of a slot keeps a property of drafts. -/
def Slot.Keeps (slot : Slot σ) (m : Medium) (holds : σ → Prop) : Prop :=
  ∀ d s t, holds s → slot.fill m d s = .ok t → holds t

/-- A slot keeps a property that is not lost when what was read is set. -/
theorem keeps_slot {decode : Decoder α} {get : σ → Option α} {set : σ → α → σ}
    {holds : σ → Prop} (h : ∀ d a s, decode m d = .ok a → holds s → holds (set s a)) :
    (slot key required decode get set).Keeps m holds := by
  intro d s t hs hfill
  obtain ⟨a, ha, rfl⟩ := Except.map_eq_ok_iff.1 hfill
  exact h d a s ha hs

section

variable {holds : σ → Prop} (hslots : ∀ slot ∈ slots, slot.Keeps m holds)

include hslots

/-- Reading the members of an object keeps what every slot keeps. -/
theorem holds_of_visitMembers {members : List (Option String × Document)} (hs : holds s)
    (h : visitMembers slots m members s = .ok t) : holds t := by
  induction members generalizing s with
  | nil => exact Except.ok.inj h ▸ hs
  | cons member rest ih =>
    obtain ⟨_ | key, d⟩ := member
    · cases h
    rw [visitMembers] at h
    split at h
    -- A member without a slot is skipped, if it can be.
    · split at h
      · exact ih hs h
      · cases h
    next slot hslot =>
    split at h
    · cases h
    · obtain ⟨u, hu, h⟩ := Except.bind_eq_ok_iff.1 h
      exact ih (hslots slot (List.mem_of_find?_eq_some hslot) d s u hs hu) h

/-- Reading the items of the array form keeps what every slot keeps. -/
theorem holds_of_visitItems {name : String} {total position : Nat} {items : List Document}
    (hs : holds s) (h : visitItems name m total position slots items s = .ok t) : holds t := by
  induction slots generalizing position items s with
  | nil =>
    cases items with
    | nil => exact Except.ok.inj h ▸ hs
    | cons _ _ => cases h
  | cons slot slots ih =>
    obtain ⟨hslot, hrest⟩ := List.forall_mem_cons.1 hslots
    cases items with
    | nil =>
      rw [visitItems] at h
      split at h
      · cases h
      · exact ih hrest hs h
    | cons d ds =>
      obtain ⟨u, hu, h⟩ := Except.bind_eq_ok_iff.1 h
      exact ih hrest (hslot d s u hs hu) h

/-- What is read of a structure, in either form, is made of a draft with every property that
the slots keep. -/
theorem exists_draft_of_structured {name : String} {empty : σ}
    {finish : σ → Except DecodeError α} {d : Document} {a : α} (hempty : holds empty)
    (h : structured name slots empty finish m d = .ok a) : ∃ s, holds s ∧ finish s = .ok a := by
  cases d with
  | object members =>
    obtain ⟨s, hs, hfinish⟩ := Except.bind_eq_ok_iff.1 h
    exact ⟨s, holds_of_visitMembers hslots hempty hs, hfinish⟩
  | array items =>
    obtain ⟨s, hs, hfinish⟩ := Except.bind_eq_ok_iff.1 h
    exact ⟨s, holds_of_visitItems hslots hempty hs, hfinish⟩
  | _ => cases h

end

/-- What is read of a list was read of its items. -/
theorem holds_of_list {decode : Decoder α} {holds : α → Prop}
    (hitem : ∀ d a, decode m d = .ok a → holds a) {d : Document} {as : List α}
    (h : list decode m d = .ok as) : ∀ a ∈ as, holds a := by
  cases d with
  | array items =>
    rw [list, Except.mapM_eq_ok_iff] at h
    induction h with
    | nil => exact List.forall_mem_nil _
    | cons ha _ ih => exact List.forall_mem_cons.2 ⟨hitem _ _ ha, ih⟩
  | _ => cases h

end Decoder

end RegulatoryReporting
