import Mathlib.Data.List.Basic

/-!
# Lists in the Order of Numbered Places

A place in a document has a number like that of a section: a list of natural numbers, the
first of which counts the outermost items. Numbers are compared entry by entry. A list that
was put together item by item, and within an item part by part, holds what stands at the
places in the order of their numbers; so its first entry stands at the least place at which
there is anything.

`Enumerates` says this of a list without mentioning how it was put together, and `Sections`
builds it up: from the last item to the first, each item in front of those after it.

## Main results

* `Enumerates.head?_eq_some_iff` — the first entry stands at the least place.
* `Sections.cons`, `sections_flatMap_zipIdx` — one more item in front, and an item for each
  member of a list.
-/

namespace RegulatoryReporting

variable {α β γ : Type}

/-- A list holds just what stands at the places, in the order of their numbers. -/
def Enumerates (Stands : List Nat → β → Prop) (vs : List β) : Prop :=
  ∃ entries : List (List Nat × β), entries.map Prod.snd = vs ∧
    entries.Pairwise (fun a b => a.1 < b.1) ∧
    ∀ place v, (place, v) ∈ entries ↔ Stands place v

namespace Enumerates

variable {Stands : List Nat → β → Prop} {vs : List β}

/-- What stands where may be said in other words. -/
theorem congr {Other : List Nat → β → Prop} (h : Enumerates Stands vs)
    (hsame : ∀ place v, Stands place v ↔ Other place v) : Enumerates Other vs := by
  obtain ⟨entries, hmap, hsorted, hmem⟩ := h
  exact ⟨entries, hmap, hsorted, fun place v => (hmem place v).trans (hsame place v)⟩

/-- The first entry is what stands at the least place at which there is anything. -/
theorem head?_eq_some_iff (h : Enumerates Stands vs) {v : β} :
    vs.head? = some v ↔
      ∃ place, Stands place v ∧ ∀ earlier < place, ∀ w, ¬ Stands earlier w := by
  obtain ⟨entries, rfl, hsorted, hmem⟩ := h
  cases entries with
  | nil =>
    constructor
    · intro hhead
      cases hhead
    · rintro ⟨place, hstands, -⟩
      cases (hmem place v).2 hstands
  | cons first rest =>
    obtain ⟨hfirst, -⟩ := List.pairwise_cons.1 hsorted
    have hstands : Stands first.1 first.2 := (hmem _ _).1 List.mem_cons_self
    constructor
    · intro hhead
      obtain rfl : first.2 = v := Option.some.inj hhead
      refine ⟨first.1, hstands, fun earlier hlt w hw => ?_⟩
      rcases List.mem_cons.1 ((hmem earlier w).2 hw) with rfl | hrest
      · exact List.lt_irrefl _ hlt
      · exact List.lt_asymm hlt (hfirst _ hrest)
    · rintro ⟨place, hplace, hleast⟩
      rcases List.mem_cons.1 ((hmem place v).2 hplace) with rfl | hrest
      · rfl
      · exact absurd hstands (hleast first.1 (hfirst _ hrest) first.2)

/-- Entries may be rewritten. -/
theorem map (f : β → γ) (h : Enumerates Stands vs) :
    Enumerates (fun place w => ∃ v, Stands place v ∧ w = f v) (vs.map f) := by
  obtain ⟨entries, rfl, hsorted, hmem⟩ := h
  refine ⟨entries.map fun entry => (entry.1, f entry.2), ?_, ?_, fun place w => ?_⟩
  · simp only [List.map_map, Function.comp_def]
  · rw [List.pairwise_map]
    exact hsorted
  · simp only [List.mem_map, Prod.exists, Prod.mk.injEq, hmem]
    constructor
    · rintro ⟨_, v, hstands, rfl, rfl⟩
      exact ⟨v, hstands, rfl⟩
    · rintro ⟨v, hstands, rfl⟩
      exact ⟨place, v, hstands, rfl, rfl⟩

/-- An entry that may be missing stands at a place without further parts. -/
theorem toList (v? : Option β) :
    Enumerates (fun place v => place = [] ∧ v? = some v) v?.toList := by
  cases v? with
  | none =>
    refine ⟨[], rfl, List.Pairwise.nil, fun place v => ?_⟩
    constructor
    · intro hmem
      cases hmem
    · rintro ⟨-, hsome⟩
      cases hsome
  | some only =>
    refine ⟨[([], only)], rfl, List.pairwise_singleton _ _, fun place v => ?_⟩
    simp only [List.mem_singleton, Prod.mk.injEq, Option.some.injEq]
    exact and_congr_right' eq_comm

end Enumerates

/-! ### Items in order -/

/-- A list enumerates items whose numbers start at the given one. -/
structure Sections (number : Nat) (Stands : List Nat → β → Prop) (vs : List β) : Prop where
  /-- It is in the order of the places. -/
  enumerates : Enumerates Stands vs
  /-- The items before the given one are empty. -/
  le_number : ∀ place v, Stands place v → ∃ item rest, number ≤ item ∧ place = item :: rest

namespace Sections

variable {Stands Later : List Nat → β → Prop} {vs ws : List β} {number : Nat}

/-- No items. -/
theorem nil (number : Nat) : Sections number (fun _ (_ : β) => False) [] :=
  ⟨⟨[], rfl, List.Pairwise.nil, fun _ _ => iff_of_false List.not_mem_nil not_false⟩,
    fun _ _ h => h.elim⟩

/-- What stands where may be said in other words. -/
theorem congr {Other : List Nat → β → Prop} (h : Sections number Stands vs)
    (hsame : ∀ place v, Stands place v ↔ Other place v) : Sections number Other vs :=
  ⟨h.enumerates.congr hsame, fun place v hother =>
    h.le_number place v ((hsame place v).2 hother)⟩

/-- An item in front of the later ones. -/
theorem cons (hitem : Enumerates Stands vs) (hlater : Sections (number + 1) Later ws) :
    Sections number
      (fun place v => (∃ rest, place = number :: rest ∧ Stands rest v) ∨ Later place v)
      (vs ++ ws) := by
  obtain ⟨⟨after, rfl, hafter, hmemAfter⟩, hle⟩ := hlater
  obtain ⟨entries, rfl, hsorted, hmem⟩ := hitem
  refine ⟨⟨entries.map (fun entry => (number :: entry.1, entry.2)) ++ after, ?_, ?_, ?_⟩, ?_⟩
  · simp only [List.map_append, List.map_map, Function.comp_def]
  · rw [List.pairwise_append, List.pairwise_map]
    refine ⟨hsorted.imp fun hlt => ?_, hafter, fun entry hentry other hother => ?_⟩
    · exact List.cons_lt_cons_iff.2 (.inr ⟨rfl, hlt⟩)
    · obtain ⟨_, _, rfl⟩ := List.mem_map.1 hentry
      obtain ⟨item, rest, hitem, hplace⟩ := hle _ _ ((hmemAfter _ _).1 hother)
      rw [hplace]
      exact List.cons_lt_cons_iff.2 (.inl hitem)
  · intro place v
    simp only [List.mem_append, List.mem_map, Prod.exists, Prod.mk.injEq, hmem, hmemAfter]
    refine or_congr_left ⟨?_, ?_⟩
    · rintro ⟨rest, _, hstands, rfl, rfl⟩
      exact ⟨rest, rfl, hstands⟩
    · rintro ⟨rest, rfl, hstands⟩
      exact ⟨rest, v, hstands, rfl, rfl⟩
  · rintro place v (⟨rest, rfl, -⟩ | hother)
    · exact ⟨number, rest, Nat.le_refl _, rfl⟩
    · obtain ⟨item, rest, hitem, hplace⟩ := hle place v hother
      exact ⟨item, rest, by omega, hplace⟩

end Sections

/-- An item for each member of a list, the number of the item going into it. -/
theorem sections_flatMap_zipIdx {StandsIn : Nat → α → List Nat → β → Prop}
    {f : α → Nat → List β} (h : ∀ i x, Enumerates (StandsIn i x) (f x i)) (xs : List α)
    (number : Nat) :
    Sections number
      (fun place v => ∃ i x rest, xs[i]? = some x ∧ place = (number + i) :: rest ∧
        StandsIn (number + i) x rest v)
      ((xs.zipIdx number).flatMap fun entry => f entry.1 entry.2) := by
  induction xs generalizing number with
  | nil => exact (Sections.nil number).congr fun place v => by simp
  | cons first others ih =>
    rw [List.zipIdx_cons, List.flatMap_cons]
    refine (Sections.cons (h number first) (ih (number + 1))).congr fun place v => ?_
    constructor
    · rintro (⟨rest, rfl, hstands⟩ | ⟨i, x, rest, hx, rfl, hstands⟩)
      · exact ⟨0, first, rest, rfl, rfl, hstands⟩
      · have hnumber : number + 1 + i = number + (i + 1) := by omega
        rw [hnumber] at hstands ⊢
        exact ⟨i + 1, x, rest, hx, rfl, hstands⟩
    · rintro ⟨i, x, rest, hx, rfl, hstands⟩
      cases i with
      | zero =>
        obtain rfl : first = x := Option.some.inj hx
        exact .inl ⟨rest, rfl, hstands⟩
      | succ i =>
        have hnumber : number + (i + 1) = number + 1 + i := by omega
        rw [hnumber] at hstands ⊢
        exact .inr ⟨i, x, rest, hx, rfl, hstands⟩

/-- An item for each member of a list. -/
theorem enumerates_flatMap {StandsIn : α → List Nat → β → Prop} {f : α → List β}
    (h : ∀ x, Enumerates (StandsIn x) (f x)) (xs : List α) :
    Enumerates
      (fun place v => ∃ i x rest, xs[i]? = some x ∧ place = i :: rest ∧ StandsIn x rest v)
      (xs.flatMap f) := by
  have hnumbered : xs.flatMap f = (xs.zipIdx 0).flatMap fun entry => f entry.1 := by
    conv_lhs => rw [← List.zipIdx_map_fst 0 xs, List.flatMap_map]
  rw [hnumbered]
  refine (sections_flatMap_zipIdx (fun _ => h) xs 0).enumerates.congr fun place v => ?_
  simp only [Nat.zero_add]

end RegulatoryReporting
