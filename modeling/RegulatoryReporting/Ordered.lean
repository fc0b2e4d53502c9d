/-!
# Ascending Lists

A set is kept as an ascending list, a table as a list of entries in ascending order of
their keys. Inserting keeps the order; an element that compares equal is replaced.

## Main results

* `Ordered.mem_insert` — what a set holds after an insertion.
* `Ordered.mem_ofList` — what the ascending list of some elements holds.
* `Ordered.pairwise_ofList` — it ascends.
* `Ordered.eq_of_mem_iff` — a set has one ascending list.
* `Ordered.lookup_insertEntry` — what a table holds after an insertion.
* `Ordered.isAscending_insertEntry` — an insertion keeps the keys of a table in order.
-/

namespace RegulatoryReporting.Ordered

/-- Insert into an ascending list, in the place of an element that compares equal. -/
def insert (cmp : α → α → Ordering) (a : α) : List α → List α
  | [] => [a]
  | b :: rest =>
    match cmp a b with
    | .lt => a :: b :: rest
    | .eq => a :: rest
    | .gt => b :: insert cmp a rest

/-- The ascending list of the given elements. -/
def ofList (cmp : α → α → Ordering) (as : List α) : List α :=
  as.foldl (fun sorted a => insert cmp a sorted) []

/-- Insert an entry into a table; an entry of the same key is replaced. -/
def insertEntry (key : String) (a : α) : List (String × α) → List (String × α)
  | [] => [(key, a)]
  | (k, b) :: rest =>
    if key < k then (key, a) :: (k, b) :: rest
    else if key = k then (key, a) :: rest
    else (k, b) :: insertEntry key a rest

/-- After an insertion a set holds the new element and what it held before, provided that
only an element itself compares equal to it. -/
theorem mem_insert {cmp : α → α → Ordering} (faithful : ∀ a b, cmp a b = .eq → a = b)
    {a b : α} {as : List α} : b ∈ insert cmp a as ↔ b = a ∨ b ∈ as := by
  induction as with
  | nil => simp [insert]
  | cons c rest ih =>
    simp only [insert]
    split
    · simp
    next h =>
      have := faithful a c h
      subst this
      simp
    · simp only [List.mem_cons, ih]
      constructor
      · rintro (h | h | h)
        · exact .inr (.inl h)
        · exact .inl h
        · exact .inr (.inr h)
      · rintro (h | h | h)
        · exact .inr (.inl h)
        · exact .inl h
        · exact .inr (.inr h)

/-- The ascending list of some elements holds these elements and no others. -/
theorem mem_ofList {cmp : α → α → Ordering} (faithful : ∀ a b, cmp a b = .eq → a = b)
    {a : α} {as : List α} : a ∈ ofList cmp as ↔ a ∈ as := by
  suffices ∀ sorted, a ∈ as.foldl (fun sorted a => insert cmp a sorted) sorted ↔
      a ∈ sorted ∨ a ∈ as by
    simpa [ofList] using this []
  induction as with
  | nil => simp
  | cons b rest ih =>
    intro sorted
    rw [List.foldl_cons, ih, mem_insert faithful, List.mem_cons]
    constructor
    · rintro ((h | h) | h)
      · exact .inr (.inl h)
      · exact .inl h
      · exact .inr (.inr h)
    · rintro (h | h | h)
      · exact .inl (.inr h)
      · exact .inl (.inl h)
      · exact .inr h

/-- After an insertion a table holds the new entry under its key and under every other key
what it held before. -/
theorem lookup_insertEntry {key k : String} {a : α} {table : List (String × α)} :
    (insertEntry key a table).lookup k = if k = key then some a else table.lookup k := by
  induction table with
  | nil =>
    by_cases h : k = key
    · simp [insertEntry, h]
    · simp [insertEntry, List.lookup_cons, h, beq_eq_false_iff_ne.2 h]
  | cons entry rest ih =>
    obtain ⟨j, b⟩ := entry
    simp only [insertEntry]
    by_cases h : k = key
    · subst h
      split
      · simp
      split
      · simp
      next hj =>
        have hj' : (k == j) = false := beq_eq_false_iff_ne.2 hj
        simp [List.lookup_cons, hj', ih]
    · have hk : (k == key) = false := beq_eq_false_iff_ne.2 h
      split
      · simp [List.lookup_cons, hk]
      split
      next hj =>
        subst hj
        simp [List.lookup_cons, hk]
      · simp only [List.lookup_cons, ih, h, if_false]

/-! ### Order of the elements -/

section

variable {cmp : α → α → Ordering} {a b : α} {as bs : List α}

/-- An insertion adds no element but the new one. -/
theorem eq_or_mem_of_mem_insert (h : b ∈ insert cmp a as) : b = a ∨ b ∈ as := by
  induction as with
  | nil => exact .inl (List.mem_singleton.1 h)
  | cons c rest ih =>
    rw [insert] at h
    split at h
    · exact List.mem_cons.1 h
    · exact (List.mem_cons.1 h).imp_right (List.mem_cons_of_mem _)
    · rcases List.mem_cons.1 h with rfl | h
      · exact .inr List.mem_cons_self
      · exact (ih h).imp_right (List.mem_cons_of_mem _)

variable [Std.TransCmp cmp]

/-- An insertion keeps the elements in order. -/
theorem pairwise_insert (h : as.Pairwise fun x y => cmp x y = .lt) :
    (insert cmp a as).Pairwise fun x y => cmp x y = .lt := by
  induction as with
  | nil => exact List.pairwise_singleton _ _
  | cons c rest ih =>
    obtain ⟨hfirst, hrest⟩ := List.pairwise_cons.1 h
    rw [insert]
    split
    next hlt =>
      refine List.pairwise_cons.2 ⟨fun x hx => ?_, h⟩
      rcases List.mem_cons.1 hx with rfl | hx
      · exact hlt
      · exact Std.TransCmp.lt_trans hlt (hfirst x hx)
    next heq =>
      exact List.pairwise_cons.2
        ⟨fun x hx => Std.TransCmp.lt_of_eq_of_lt heq (hfirst x hx), hrest⟩
    next hgt =>
      refine List.pairwise_cons.2 ⟨fun x hx => ?_, ih hrest⟩
      rcases eq_or_mem_of_mem_insert hx with rfl | hx
      · exact Std.OrientedCmp.gt_iff_lt.1 hgt
      · exact hfirst x hx

/-- The ascending list of some elements ascends. -/
theorem pairwise_ofList (as : List α) : (ofList cmp as).Pairwise fun x y => cmp x y = .lt := by
  suffices ∀ sorted : List α, (sorted.Pairwise fun x y => cmp x y = .lt) →
      (as.foldl (fun sorted a => insert cmp a sorted) sorted).Pairwise fun x y =>
        cmp x y = .lt from this [] List.Pairwise.nil
  induction as with
  | nil => exact fun _ hsorted => hsorted
  | cons a rest ih => exact fun sorted hsorted => ih _ (pairwise_insert hsorted)

/-- No element of an ascending list occurs twice. -/
theorem nodup_of_pairwise (h : as.Pairwise fun x y => cmp x y = .lt) : as.Nodup :=
  h.imp fun {x y} hlt heq => by
    have hself : cmp y y = .eq := Std.ReflCmp.compare_self
    rw [heq, hself] at hlt
    cases hlt

/-- A set has one ascending list. -/
theorem eq_of_mem_iff (has : as.Pairwise fun x y => cmp x y = .lt)
    (hbs : bs.Pairwise fun x y => cmp x y = .lt) (h : ∀ x, x ∈ as ↔ x ∈ bs) : as = bs := by
  refine List.Perm.eq_of_pairwise (fun x y _ _ hxy hyx => ?_) has hbs
    ((List.perm_ext_iff_of_nodup (nodup_of_pairwise has) (nodup_of_pairwise hbs)).2 h)
  rw [Std.OrientedCmp.gt_iff_lt.2 hyx] at hxy
  cases hxy

end

/-! ### Order of the keys -/

/-- The keys of a table ascend, and none occurs twice. -/
def IsAscending (table : List (String × α)) : Prop := table.Pairwise fun x y => x.1 < y.1

variable {key : String} {a : α} {table : List (String × α)}

/-- No key of an ascending table occurs twice. -/
theorem IsAscending.nodup (h : IsAscending table) : (table.map (·.1)).Nodup := by
  refine List.pairwise_map.2 (h.imp fun {x y} hlt heq => ?_)
  rw [heq] at hlt
  exact String.lt_irrefl _ hlt

/-- An insertion adds no entry but the new one. -/
theorem eq_or_mem_of_mem_insertEntry {entry : String × α}
    (h : entry ∈ insertEntry key a table) : entry = (key, a) ∨ entry ∈ table := by
  induction table with
  | nil => exact .inl (List.mem_singleton.1 h)
  | cons first rest ih =>
    rw [insertEntry] at h
    split at h
    · exact List.mem_cons.1 h
    split at h
    · exact (List.mem_cons.1 h).imp_right (List.mem_cons_of_mem _)
    · rcases List.mem_cons.1 h with h | h
      · exact .inr (h ▸ List.mem_cons_self)
      · exact (ih h).imp_right (List.mem_cons_of_mem _)

/-- An insertion keeps the keys in order. -/
theorem isAscending_insertEntry (h : IsAscending table) :
    IsAscending (insertEntry key a table) := by
  induction table with
  | nil => exact List.pairwise_singleton _ _
  | cons first rest ih =>
    obtain ⟨hfirst, hrest⟩ := List.pairwise_cons.1 h
    rw [insertEntry]
    split
    next hlt =>
      refine List.pairwise_cons.2 ⟨fun entry hentry => ?_, h⟩
      rcases List.mem_cons.1 hentry with rfl | hentry
      · exact hlt
      · exact String.lt_trans hlt (hfirst entry hentry)
    split
    next heq =>
      subst heq
      exact List.pairwise_cons.2 ⟨hfirst, hrest⟩
    next hge hne =>
      have hlt : first.1 < key := Std.lt_of_le_of_ne hge (Ne.symm hne)
      refine List.pairwise_cons.2 ⟨fun entry hentry => ?_, ih hrest⟩
      rcases eq_or_mem_of_mem_insertEntry hentry with rfl | hentry
      · exact hlt
      · exact hfirst entry hentry

/-- A key beyond all others is inserted at the end. -/
theorem insertEntry_of_forall_lt (h : ∀ entry ∈ table, entry.1 < key) :
    insertEntry key a table = table ++ [(key, a)] := by
  induction table with
  | nil => rfl
  | cons first rest ih =>
    have hfirst := h first List.mem_cons_self
    rw [insertEntry, if_neg (String.lt_asymm hfirst), if_neg, List.cons_append,
      ih fun entry hentry => h entry (List.mem_cons_of_mem _ hentry)]
    rintro rfl
    exact String.lt_irrefl _ hfirst

end RegulatoryReporting.Ordered
