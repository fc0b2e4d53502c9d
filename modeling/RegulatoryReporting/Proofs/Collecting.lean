import Mathlib.Data.List.Forall2
import RegulatoryReporting.Wire.Decoder

/-!
# Collecting Results

Where a function may fail, a list is collected element by element, and one failure is the
failure of the whole. What was collected then stands where it was collected from, so the two
lists are related position by position; everything else follows from this.

## Main results

* `mapM_eq_some_iff`, `Except.mapM_eq_ok_iff` — what was collected, position by position.
* `mapM_eq_none_iff` — collecting fails exactly if an element is missing.
-/

namespace RegulatoryReporting

variable {α β : Type}

/-! ### Optional values -/

section

variable {f g : α → Option β} {xs : List α} {ys : List β}

/-- What is collected stands where it was collected from. -/
theorem mapM_eq_some_iff : xs.mapM f = some ys ↔ List.Forall₂ (fun x y => f x = some y) xs ys := by
  induction xs generalizing ys with
  | nil => simp [eq_comm]
  | cons x xs ih =>
    simp only [List.mapM_cons, Option.bind_eq_bind, Option.bind_eq_some_iff, pure,
      Option.some.injEq, List.forall₂_cons_left_iff, ← ih]
    constructor
    · rintro ⟨y, hy, rest, hrest, rfl⟩
      exact ⟨y, rest, hy, hrest, rfl⟩
    · rintro ⟨y, rest, hy, hrest, rfl⟩
      exact ⟨y, hy, rest, hrest, rfl⟩

/-- Collecting values fails exactly if one of them is missing. -/
theorem mapM_eq_none_iff : xs.mapM f = none ↔ ∃ x ∈ xs, f x = none := by
  induction xs with
  | nil => simp
  | cons x xs ih =>
    rw [List.mapM_cons, List.exists_mem_cons_iff, ← ih]
    cases f x with
    | none => simp
    | some y => cases xs.mapM f <;> simp

/-- What is collected is the image of a list if nothing is missing. -/
theorem mapM_eq_some_map {g : α → β} (h : ∀ x ∈ xs, f x = some (g x)) :
    xs.mapM f = some (xs.map g) :=
  mapM_eq_some_iff.2 (List.forall₂_map_right_iff.2 (List.forall₂_same.2 h))

/-- Elements from which one list is collected in two ways give the same in both. -/
theorem exists_eq_of_mapM_eq (hf : xs.mapM f = some ys) (hg : xs.mapM g = some ys) :
    ∀ x ∈ xs, ∃ y, f x = some y ∧ g x = some y := by
  rw [mapM_eq_some_iff] at hf hg
  induction hf with
  | nil => exact nofun
  | cons hx _ ih =>
    cases hg with
    | cons hx' hrest => exact List.forall_mem_cons.2 ⟨⟨_, hx, hx'⟩, ih hrest⟩

end

/-! ### Results with a cause -/

/-- What is collected stands where it was collected from. -/
theorem Except.mapM_eq_ok_iff {ε : Type} {f : α → Except ε β} {xs : List α} {ys : List β} :
    xs.mapM f = .ok ys ↔ List.Forall₂ (fun x y => f x = .ok y) xs ys := by
  induction xs generalizing ys with
  | nil => simp [pure, Except.pure, eq_comm]
  | cons x xs ih =>
    simp only [List.mapM_cons, Except.bind_eq_ok_iff, List.forall₂_cons_left_iff, ← ih]
    constructor
    · rintro ⟨y, hy, rest, hrest, h⟩
      exact ⟨y, rest, hy, hrest, (Except.ok.inj h).symm⟩
    · rintro ⟨y, rest, hy, hrest, rfl⟩
      exact ⟨y, hy, rest, hrest, rfl⟩

end RegulatoryReporting
