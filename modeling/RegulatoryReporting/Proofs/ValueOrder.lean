import Mathlib.Data.Ordering.Basic
import Mathlib.Order.Compare
import RegulatoryReporting.Comparison.Order

/-!
# Laws of the Order of Values

Values are compared as numbers, as instants or as texts, whatever their kinds call for. This
module shows what holds of the order all the same. It does not depend on which value comes
first, it takes every value but null to be equal to itself, and it is a total preorder on the
values of one kind that are compared in one way.

Of each way to compare it is enough to know that it is a comparison (`Std.TransCmp`): numbers
are compared by their units, instants by seconds and fractions, texts character by character.
A kind of values is totally preordered because its values are compared by a key
(`Json.isTotallyPreordered_of_key`).

Across kinds there is no such law: the text `10` comes before the text `9`, the text `9` before
the number `9.5`, and this number before the text `10`.

## Main results

* `Json.same_iff` — values are equal if they are once their numbers are written in units.
* `Json.compare_swap`, `Json.compare_self` — the order in general.
* `Json.order_laws` — these laws, that of arrays and objects, and the kinds that are totally
  preordered.
-/

namespace RegulatoryReporting

/-! ### Ways to compare -/

/-- Numbers are compared by their units. -/
instance : Std.TransCmp Binary64.compare :=
  inferInstanceAs (Std.TransCmp (compareOn Binary64.units))

/-- Instants are compared by their seconds, then by the fractions. -/
instance : Std.TransCmp Instant.compare :=
  inferInstanceAs (Std.TransCmp (compareLex (compareOn Instant.seconds) (compareOn Instant.nanos)))

/-- A number is not before or after itself. -/
theorem Binary64.compare_self (x : Binary64) : x.compare x = .eq := Std.ReflCmp.compare_self

namespace Json

/-- Lists of characters are compared character by character. -/
theorem compareChars_eq : compareChars = List.compareLex (compareOn Char.toNat) := by
  funext cs ds
  induction cs generalizing ds with
  | nil => cases ds <;> rfl
  | cons c cs ih =>
    cases ds with
    | nil => rfl
    | cons d ds => rw [compareChars, List.compareLex_cons_cons, ih, compareOn]

instance : Std.TransCmp compareChars := by
  rw [compareChars_eq]
  infer_instance

/-- The order of texts is reversed when they are exchanged. -/
theorem compareTexts_swap (s t : String) : compareTexts t s = (compareTexts s t).swap := by
  rw [compareTexts, compareTexts]
  exact Std.OrientedCmp.eq_swap

/-- The order of strings is reversed when they are exchanged: whether both stand for instants
does not depend on which comes first. -/
theorem compareStrings_swap (s t : String) : compareStrings t s = (compareStrings s t).swap := by
  rw [compareStrings, compareStrings]
  cases Instant.ofText? s with
  | none => cases Instant.ofText? t <;> exact compareTexts_swap s t
  | some a =>
    cases Instant.ofText? t with
    | none => exact compareTexts_swap s t
    | some b =>
      dsimp only
      exact Std.OrientedCmp.eq_swap

/-- A string is not before or after itself, whether it stands for an instant or not. -/
theorem compareStrings_self (s : String) : compareStrings s s = .eq := by
  rw [compareStrings]
  cases Instant.ofText? s with
  | none =>
    dsimp only
    rw [compareTexts]
    exact Std.ReflCmp.compare_self
  | some a =>
    dsimp only
    exact Std.ReflCmp.compare_self

end Json

/-! ### Equality -/

/-- The number written in units: numbers of one value are written in one way. -/
def Binary64.inUnits (x : Binary64) : Binary64 := ⟨x.units < 0, x.units.natAbs, 0⟩

/-- Two numbers are written alike exactly if they have one value. -/
theorem Binary64.inUnits_eq_iff {x y : Binary64} : x.inUnits = y.inUnits ↔ x.units = y.units := by
  rw [inUnits, inUnits, Binary64.mk.injEq, decide_eq_decide]
  omega

/-- The number, if it is no integer, written in units. -/
def Number.inUnits : Number → Number
  | .int n => .int n
  | .float x => .float x.inUnits

/-- Two numbers are equal if they are once they are written in units. -/
theorem Number.same_iff {m n : Number} : m.same n = true ↔ m.inUnits = n.inUnits := by
  cases m <;> cases n <;> simp [same, inUnits, Binary64.inUnits_eq_iff]

namespace Json

mutual

/-- The value with its numbers written in units. -/
def inUnits : Json → Json
  | num n => num n.inUnits
  | arr items => arr (itemsInUnits items)
  | obj members => obj (membersInUnits members)
  | v => v

/-- The items with their numbers written in units. -/
def itemsInUnits : List Json → List Json
  | [] => []
  | v :: vs => inUnits v :: itemsInUnits vs

/-- The members with their numbers written in units. -/
def membersInUnits : List (String × Json) → List (String × Json)
  | [] => []
  | (key, v) :: ms => (key, inUnits v) :: membersInUnits ms

end

mutual

/-- Values are structurally equal if they are equal once their numbers are written in units. -/
theorem same_iff : ∀ {v w : Json}, v.same w = true ↔ v.inUnits = w.inUnits
  | null, w => by cases w <;> simp [same, inUnits]
  | bool _, w => by cases w <;> simp [same, inUnits]
  | num _, w => by cases w <;> simp [same, inUnits, Number.same_iff]
  | str _, w => by cases w <;> simp [same, inUnits]
  | arr _, w => by cases w <;> simp [same, inUnits, sameItems_iff]
  | obj _, w => by cases w <;> simp [same, inUnits, sameMembers_iff]

/-- The same for items. -/
theorem sameItems_iff : ∀ {vs ws : List Json},
    sameItems vs ws = true ↔ itemsInUnits vs = itemsInUnits ws
  | [], ws => by cases ws <;> simp [sameItems, itemsInUnits]
  | _ :: _, ws => by cases ws <;> simp [sameItems, itemsInUnits, same_iff, sameItems_iff]

/-- The same for members. -/
theorem sameMembers_iff : ∀ {ms ns : List (String × Json)},
    sameMembers ms ns = true ↔ membersInUnits ms = membersInUnits ns
  | [], ns => by cases ns <;> simp [sameMembers, membersInUnits]
  | (_, _) :: _, ns => by
    cases ns <;> simp [sameMembers, membersInUnits, same_iff, sameMembers_iff, and_assoc]

end

/-- Every value is structurally equal to itself. -/
theorem same_self (v : Json) : v.same v = true := same_iff.2 rfl

/-- Structural equality does not depend on which value comes first. -/
theorem same_comm (v w : Json) : v.same w = w.same v := by
  rw [Bool.eq_iff_iff, same_iff, same_iff, eq_comm]

/-! ### The order in general -/

/-- The numbers that two values are compared as do not depend on which value comes first. -/
theorem asNumbers?_swap (a b : Json) : b.asNumbers? a = (a.asNumbers? b).map Prod.swap := by
  rw [asNumbers?, asNumbers?, Bool.or_comm]
  split
  next => cases a.toNumber? <;> cases b.toNumber? <;> rfl
  next => rfl

/-- An array or object stands for no number. -/
theorem toNumber?_of_isContainer {v : Json} (h : v.isContainer = true) : v.toNumber? = none := by
  cases v with
  | arr | obj => rfl
  | null | bool | num | str => cases h

/-- An array or object is not compared as a number. -/
theorem asNumbers?_of_isContainer {a b : Json} (h : (a.isContainer || b.isContainer) = true) :
    a.asNumbers? b = none := by
  rw [asNumbers?]
  rw [Bool.or_eq_true] at h
  split
  next =>
    rcases h with ha | hb
    · rw [toNumber?_of_isContainer ha]
      rfl
    · rw [toNumber?_of_isContainer hb]
      cases a.toNumber? <;> rfl
  next => rfl

/-- An array or object is compared by equality. -/
theorem compareKinds_of_isContainer {a b : Json} (h : (a.isContainer || b.isContainer) = true) :
    compareKinds a b = if a.same b then some .eq else none := by
  rw [compareKinds]
  · exact if_pos h
  · rintro x y rfl rfl
    cases h
  · rintro s t rfl rfl
    cases h

/-- Values that are not compared as numbers: their order is reversed when they are
exchanged. -/
theorem compareKinds_swap (a b : Json) : compareKinds b a = (compareKinds a b).map .swap := by
  by_cases hcontainer : (a.isContainer || b.isContainer) = true
  · rw [compareKinds_of_isContainer hcontainer,
      compareKinds_of_isContainer (Bool.or_comm _ _ ▸ hcontainer), same_comm b a]
    split <;> rfl
  cases a with
  | null => cases b <;> rfl
  | bool x =>
    cases b with
    | null => rfl
    | bool y => exact congrArg some Std.OrientedCmp.eq_swap
    | num | str => exact congrArg some (compareTexts_swap _ _)
    | arr | obj => exact absurd rfl hcontainer
  | num m =>
    cases b with
    | null => rfl
    | bool | num | str => exact congrArg some (compareTexts_swap _ _)
    | arr | obj => exact absurd rfl hcontainer
  | str s =>
    cases b with
    | null => rfl
    | str t => exact congrArg some (compareStrings_swap s t)
    | bool | num => exact congrArg some (compareTexts_swap _ _)
    | arr | obj => exact absurd rfl hcontainer
  | arr | obj => exact absurd rfl hcontainer

/-- The order is reversed when the values are exchanged. -/
theorem compare_swap (a b : Json) : b.compare a = (a.compare b).map .swap := by
  rw [compare, compare, asNumbers?_swap a b]
  cases a.asNumbers? b with
  | none => exact compareKinds_swap a b
  | some numbers =>
    obtain ⟨x, y⟩ := numbers
    exact congrArg some Std.OrientedCmp.eq_swap

/-- An array or object equals the same array or object, and is comparable with nothing else. -/
theorem compare_of_isContainer {a b : Json} (h : (a.isContainer || b.isContainer) = true) :
    a.compare b = if a.same b then some .eq else none := by
  rw [compare, asNumbers?_of_isContainer h]
  exact compareKinds_of_isContainer h

/-- Every value but null is equal to itself. -/
theorem compare_self {v : Json} (hv : v ≠ null) : v.compare v = some .eq := by
  cases v with
  | null => exact absurd rfl hv
  | bool b => exact congrArg some Std.ReflCmp.compare_self
  | num n => exact congrArg some (Binary64.compare_self _)
  | str s => exact congrArg some (compareStrings_self s)
  | arr items => rw [compare_of_isContainer rfl, if_pos (same_self _)]
  | obj members => rw [compare_of_isContainer rfl, if_pos (same_self _)]

/-- Every value but null is loosely equal to itself. -/
theorem looselyEqual_self {v : Json} (hv : v ≠ null) : v.looselyEqual v = true := by
  rw [looselyEqual, compare_self hv]
  rfl

/-! ### Kinds of values -/

/-- The values are comparable, and the first one does not come after the second. -/
def NotAfter (a b : Json) : Prop := ∃ order, a.compare b = some order ∧ order.isLE = true

/-- The values of a kind are comparable, and they can be put in a row in which equal values may
change places. -/
structure IsTotallyPreordered (kind : Json → Prop) : Prop where
  /-- Of two values, one does not come after the other. -/
  total : ∀ a b, kind a → kind b → a.NotAfter b ∨ b.NotAfter a
  /-- What does not come after a second value does not come after a third one that the second
  does not come after. -/
  trans : ∀ a b c, kind a → kind b → kind c → a.NotAfter b → b.NotAfter c → a.NotAfter c

/-- Values that are compared by a key are totally preordered. -/
theorem isTotallyPreordered_of_key {ι κ : Type} (cmp : κ → κ → Ordering) [Std.TransCmp cmp]
    (key : ι → κ) {value : ι → Json}
    (h : ∀ i j, (value i).compare (value j) = some (cmp (key i) (key j))) :
    IsTotallyPreordered fun v => ∃ i, v = value i := by
  have hle : ∀ i j, (value i).NotAfter (value j) ↔ (cmp (key i) (key j)).isLE = true := by
    intro i j
    simp only [NotAfter, h i j, Option.some.injEq, exists_eq_left']
  constructor
  · rintro _ _ ⟨i, rfl⟩ ⟨j, rfl⟩
    have hswap : cmp (key j) (key i) = (cmp (key i) (key j)).swap := Std.OrientedCmp.eq_swap
    rw [hle, hle, hswap]
    cases cmp (key i) (key j) <;> decide
  · rintro _ _ _ ⟨i, rfl⟩ ⟨j, rfl⟩ ⟨k, rfl⟩
    rw [hle, hle, hle]
    exact Std.TransCmp.isLE_trans

/-- JSON numbers are compared by their values. -/
theorem isTotallyPreordered_num : IsTotallyPreordered fun v => ∃ n, v = num n :=
  isTotallyPreordered_of_key Binary64.compare Number.toBinary64 fun _ _ => rfl

/-- Truth values are compared, false before true. -/
theorem isTotallyPreordered_bool : IsTotallyPreordered fun v => ∃ b, v = bool b :=
  isTotallyPreordered_of_key Ord.compare id fun _ _ => rfl

/-- Strings that stand for instants are compared by these. -/
theorem isTotallyPreordered_instants :
    IsTotallyPreordered fun v => ∃ s : { s : String // (Instant.ofText? s).isSome = true },
      v = str s := by
  refine isTotallyPreordered_of_key Instant.compare (fun s => (Instant.ofText? s.1).get s.2)
    fun s t => ?_
  obtain ⟨a, ha⟩ := Option.isSome_iff_exists.1 s.2
  obtain ⟨b, hb⟩ := Option.isSome_iff_exists.1 t.2
  have horder : compareStrings s t = a.compare b := by rw [compareStrings, ha, hb]
  simp only [ha, hb, Option.get_some]
  exact congrArg some horder

/-- Strings that stand for no instants are compared by their characters. -/
theorem isTotallyPreordered_texts :
    IsTotallyPreordered fun v => ∃ s : { s : String // Instant.ofText? s = none }, v = str s := by
  refine isTotallyPreordered_of_key compareChars (fun s => Text.trimList s.1.toList) fun s t => ?_
  have horder : compareStrings s t = compareTexts s t := by rw [compareStrings, s.2]
  exact congrArg some horder

/-- **The laws of the order of values.**

* It is reversed when the values are exchanged.
* Every value but null equals itself, and null is not comparable with itself.
* Where one value is an array or object, two values are equal in this order if they are equal
  once their numbers are written in units, and otherwise they are not comparable.
* JSON numbers, truth values, strings that stand for instants and strings that do not are
  totally preordered. -/
theorem order_laws :
    (∀ a b : Json, b.compare a = (a.compare b).map .swap) ∧
    (∀ v : Json, v ≠ null → v.compare v = some .eq) ∧ null.compare null = none ∧
    (∀ a b : Json, a.isContainer = true ∨ b.isContainer = true →
      (a.compare b = some .eq ↔ a.inUnits = b.inUnits) ∧
      (a.inUnits ≠ b.inUnits → a.compare b = none)) ∧
    (IsTotallyPreordered fun v => ∃ n, v = num n) ∧
    (IsTotallyPreordered fun v => ∃ b, v = bool b) ∧
    (IsTotallyPreordered fun v => ∃ s : { s : String // (Instant.ofText? s).isSome = true },
      v = str s) ∧
    (IsTotallyPreordered fun v => ∃ s : { s : String // Instant.ofText? s = none }, v = str s) := by
  refine ⟨compare_swap, fun v hv => compare_self hv, rfl, fun a b hcontainer => ?_,
    isTotallyPreordered_num, isTotallyPreordered_bool, isTotallyPreordered_instants,
    isTotallyPreordered_texts⟩
  rw [compare_of_isContainer (Bool.or_eq_true_iff.2 hcontainer), ne_eq, ← same_iff]
  cases a.same b <;> simp

/-- An array with a zero of one sign equals the array with the zero of the other, the laws
holding for both. -/
theorem order_laws_zeros :
    (arr [num (.float (.zero true))]).isContainer = true ∧
      (arr [num (.float (.zero true))]).compare (arr [num (.float (.zero false))]) = some .eq ∧
      (arr [num (.float (.zero true))]).compare (str "[-0.0]") = none := by
  obtain ⟨-, -, -, hcontainer, -⟩ := order_laws
  have hzeros := hcontainer (arr [num (.float (.zero true))])
  exact ⟨rfl, (hzeros (arr [num (.float (.zero false))]) (.inl rfl)).1.2 rfl,
    (hzeros (str "[-0.0]") (.inl rfl)).2 nofun⟩

-- Across kinds there is no order: these three go round in a circle.
example : (str "10").compare (str "9") = some .lt ∧
    (str "9").compare (num (.float (.nearest false 19 2))) = some .lt ∧
    (num (.float (.nearest false 19 2))).compare (str "10") = some .lt := by
  decide +kernel

end Json

end RegulatoryReporting
