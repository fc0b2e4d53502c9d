import Mathlib.Order.Bounds.Basic
import RegulatoryReporting.Proofs.WrittenPaths

/-!
# Joined Paths

Two paths with a point between them are a path, and it leads where the second one leads from
the end of the first. The reader needs no second look for this: wherever it stands after a text
that is a path, a point makes it start again with an empty name (`PathSegment.scan_append_point`),
and the point is the only thing that it can go on with.

A filter is an index in disguise. It leads to the item at the least place of an array at which
an item is selected (`selectedPlaces`), and nowhere if there is no such place.

## Main results

* `FieldPath.ofText_join` — two paths with a point between them are read as both in turn.
* `PathSegment.step_filter` — a filter leads where the index of the first selected item leads.
* `resolves_joined` — both, with the places to which the paths lead.
-/

namespace RegulatoryReporting

/-! ### A point between two paths -/

namespace PathSegment

variable {position : PathPosition} {segments : List PathSegment} {cs : List Char}

/-- Wherever the reader could stop, a point makes it start again. -/
theorem scan_append_point (h : scan position cs = .ok segments) (ds : List Char) :
    scan position (cs ++ '.' :: ds) = (scan (.inName []) ds).map (segments ++ ·) := by
  induction cs generalizing position segments with
  | nil =>
    cases position with
    | inName taken =>
      rw [scan] at h
      obtain ⟨name, hname, h⟩ := Except.bind_eq_ok_iff.1 h
      obtain rfl := Except.ok.inj h
      rw [List.nil_append, scan, if_pos (beq_self_eq_true _), hname]
      cases scan (.inName []) ds <;> rfl
    | inFilter => cases h
    | closed =>
      obtain rfl := Except.ok.inj h
      rw [List.nil_append, scan, if_pos (beq_self_eq_true _)]
      cases scan (.inName []) ds <;> rfl
  | cons c cs ih =>
    rw [List.cons_append]
    cases position with
    | inName taken =>
      rw [scan] at h ⊢
      split at h
      next hpoint =>
        obtain ⟨name, hname, h⟩ := Except.bind_eq_ok_iff.1 h
        obtain ⟨rest, hrest, h⟩ := Except.bind_eq_ok_iff.1 h
        obtain rfl := Except.ok.inj h
        rw [if_pos hpoint, hname, ih hrest]
        cases scan (.inName []) ds <;> rfl
      next hpoint =>
        rw [if_neg hpoint]
        split at h
        next hbracket =>
          obtain ⟨name, hname, h⟩ := Except.bind_eq_ok_iff.1 h
          rw [if_pos hbracket, hname]
          exact ih h
        next hbracket =>
          rw [if_neg hbracket]
          exact ih h
    | inFilter name taken =>
      rw [scan] at h ⊢
      split at h
      next hbracket =>
        obtain ⟨segment, hsegment, h⟩ := Except.bind_eq_ok_iff.1 h
        obtain ⟨rest, hrest, h⟩ := Except.bind_eq_ok_iff.1 h
        obtain rfl := Except.ok.inj h
        rw [if_pos hbracket, hsegment, ih hrest]
        cases scan (.inName []) ds <;> rfl
      next hbracket =>
        rw [if_neg hbracket]
        exact ih h
    | closed =>
      rw [scan] at h ⊢
      split at h
      next hpoint =>
        rw [if_pos hpoint]
        exact ih h
      next => cases h

end PathSegment

namespace FieldPath

variable {raw₁ raw₂ : String} {p q : FieldPath}

/-- The text of a path has characters, none of them a blank at an end. -/
theorem text_trimmed (h : ofText raw₁ = .ok p) :
    p.text.toList ≠ [] ∧ (∀ c ∈ p.text.toList.head?, Text.isWhiteSpace c = false) ∧
      ∀ c ∈ p.text.toList.getLast?, Text.isWhiteSpace c = false := by
  obtain ⟨htext, hne, -⟩ := ofText_eq_ok_iff.1 h
  rw [htext, Text.trim, String.toList_ofList]
  exact ⟨hne, fun _ hc => Text.isWhiteSpace_of_head?_trimList hc,
    fun _ hc => Text.isWhiteSpace_of_getLast?_trimList hc⟩

/-- The text of a path is scanned to its segments. -/
theorem scan_text (h : ofText raw₁ = .ok p) :
    PathSegment.scan (.inName []) p.text.toList = .ok p.segments := by
  obtain ⟨-, hfirst, hlast⟩ := text_trimmed h
  have hscan := (ofText_eq_ok_iff.1 (ofText_text h)).2.2
  rwa [Text.trimList_of_trimmed hfirst hlast] at hscan

/-- Two paths with a point between them are read as both in turn. -/
theorem ofText_join (hp : ofText raw₁ = .ok p) (hq : ofText raw₂ = .ok q) :
    ofText (p.text ++ "." ++ q.text) =
      .ok ⟨p.text ++ "." ++ q.text, p.segments ++ q.segments⟩ := by
  obtain ⟨hne, hfirst, -⟩ := text_trimmed hp
  obtain ⟨hne', -, hlast⟩ := text_trimmed hq
  have hchars : (p.text ++ "." ++ q.text).toList = p.text.toList ++ '.' :: q.text.toList := by
    rw [String.toList_append, String.toList_append, List.append_assoc]
    rfl
  have htrim : Text.trimList (p.text.toList ++ '.' :: q.text.toList) =
      p.text.toList ++ '.' :: q.text.toList := by
    refine Text.trimList_of_trimmed ?_ ?_
    · rwa [List.head?_append_of_ne_nil _ hne]
    · rwa [List.getLast?_append_of_ne_nil _ (List.cons_ne_nil _ _),
        List.getLast?_cons_of_ne_nil hne']
  rw [ofText_eq_ok_iff, Text.trim, hchars, htrim, ← hchars, String.ofList_toList, hchars,
    PathSegment.scan_append_point (scan_text hp), scan_text hq]
  exact ⟨rfl, List.append_ne_nil_of_left_ne_nil hne _, rfl⟩

end FieldPath

/-! ### Filters as indices -/

/-- A scalar and its text. -/
inductive Json.HasText : Json → String → Prop
  | str (s : String) : HasText (str s) s
  | num (n : Number) : HasText (num n) n.text
  | true : HasText (bool true) "true"
  | false : HasText (bool false) "false"

/-- A value has a text if it is the text of the scalar. -/
theorem Json.scalarText?_eq_some_iff {v : Json} {s : String} :
    v.scalarText? = some s ↔ v.HasText s := by
  constructor
  · intro h
    cases v with
    | str t => obtain rfl := Option.some.inj h; exact .str t
    | num n => obtain rfl := Option.some.inj h; exact .num n
    | bool b => cases b <;> obtain rfl := Option.some.inj h <;> constructor
    | _ => cases h
  · rintro (_ | _ | _ | _) <;> rfl

/-- An item that a filter selects: an object that holds a scalar of exactly this text under the
key. -/
def IsSelected (key value : String) (item : Json) : Prop :=
  ∃ members v, item = .obj members ∧ members.lookup key = some v ∧ v.HasText value

/-- The places at which an array under a name holds items that a filter selects. A value that is
no object with such an array has none. -/
def selectedPlaces (name key value : String) (record : Json) : Set Nat :=
  {i | ∃ items item, record.get? name = some (.arr items) ∧ items[i]? = some item ∧
    IsSelected key value item}

variable {name key value : String} {record : Json}

/-- A filter looks for the items that it selects. -/
theorem matchesFilter_iff {item : Json} :
    matchesFilter key value item = true ↔ IsSelected key value item := by
  rw [matchesFilter, beq_iff_eq, Option.bind_eq_some_iff]
  constructor
  · rintro ⟨v, hget, htext⟩
    cases item with
    | obj members => exact ⟨members, v, rfl, hget, Json.scalarText?_eq_some_iff.1 htext⟩
    | _ => cases hget
  · rintro ⟨members, v, rfl, hget, htext⟩
    exact ⟨v, hget, Json.scalarText?_eq_some_iff.2 htext⟩

/-- In an array, the places of a filter are those of the items that match. -/
theorem mem_selectedPlaces_iff {items : List Json} (h : record.get? name = some (.arr items))
    {i : Nat} : i ∈ selectedPlaces name key value record ↔
      ∃ item, items[i]? = some item ∧ matchesFilter key value item = true := by
  constructor
  · rintro ⟨items', item, hitems, hitem, hselected⟩
    obtain rfl := Json.arr.inj (Option.some.inj (h.symm.trans hitems))
    exact ⟨item, hitem, matchesFilter_iff.2 hselected⟩
  · rintro ⟨item, hitem, hmatches⟩
    exact ⟨items, item, h, hitem, matchesFilter_iff.1 hmatches⟩

/-- The place of one segment. -/
theorem resolveSegments_singleton (s : PathSegment) (record : Json) :
    resolveSegments [s] record = s.step record := by
  rw [resolveSegments]
  cases s.step record <;> rfl

namespace PathSegment

/-- A filter leads where the index of the first selected item leads. -/
theorem step_filter {i : Nat} (h : IsLeast (selectedPlaces name key value record) i) :
    (filter name key value).step record = (index name i).step record := by
  obtain ⟨⟨items, item, hitems, hitem, hselected⟩, hleast⟩ := h
  have hfind : items.find? (matchesFilter key value) = some item := by
    obtain ⟨hi, hget⟩ := List.getElem?_eq_some_iff.1 hitem
    refine List.find?_eq_some_iff_getElem.2 ⟨matchesFilter_iff.2 hselected, i, hi, hget, ?_⟩
    intro j hj
    rw [Bool.not_eq_true']
    refine eq_false_of_ne_true fun hmatches => absurd (hleast ?_) (Nat.not_le_of_lt hj)
    exact (mem_selectedPlaces_iff hitems).2 ⟨items[j], List.getElem?_eq_getElem _, hmatches⟩
  rw [step, step, hitems, Option.bind_some, Json.items?, Option.bind_some, Option.bind_some, hfind,
    hitem]

/-- Where no item is selected a filter leads nowhere. -/
theorem step_filter_eq_none (h : selectedPlaces name key value record = ∅) :
    (filter name key value).step record = none := by
  rw [step, Option.bind_eq_none_iff]
  intro items hitems
  rw [List.find?_eq_none]
  intro item hitem hmatches
  obtain ⟨i, hi⟩ := List.getElem?_of_mem hitem
  obtain ⟨array, harray, hof⟩ := Option.bind_eq_some_iff.1 hitems
  cases array with
  | arr items' =>
    obtain rfl := Option.some.inj hof
    have hmem : i ∈ selectedPlaces name key value record :=
      (mem_selectedPlaces_iff harray).2 ⟨item, hi, hmatches⟩
    rwa [h] at hmem
  | _ => cases hof

/-- The text of a segment leads where the segment does. -/
theorem resolve_print {s : PathSegment} (h : s.IsWellFormed) (record : Json) :
    resolve record (String.ofList s.print) = s.step record := by
  have hread : FieldPath.ofText (String.ofList s.print) = .ok ⟨String.ofList s.print, [s]⟩ :=
    @FieldPath.ofText_printSegments [s] ⟨List.cons_ne_nil _ _, List.forall_mem_singleton.2 h⟩
  rw [resolve, hread]
  exact resolveSegments_singleton s record

/-- The text of a filter. -/
theorem ofList_print_filter (name key value : String) :
    String.ofList (filter name key value).print =
      name ++ "[" ++ key ++ "=" ++ value ++ "]" := by
  rw [← String.toList_inj]
  simp [print]

/-- The text of an index. -/
theorem ofList_print_index (name : String) (i : Nat) :
    String.ofList (index name i).print = name ++ "[" ++ toString i ++ "]" := by
  rw [← String.toList_inj]
  simp [print]

end PathSegment

/-- **Joined paths and filters.**

* Two paths with a point between them are a path. Its segments are those of the first and then
  those of the second, and it leads where the second one leads from the end of the first, and
  nowhere if the first one leads nowhere.
* A filter leads where the index of the least place leads at which an item is selected, and
  nowhere if there is no such place, in particular if the name holds no array.
* A filter and an index that can be written are read from their texts as these segments. -/
theorem resolves_joined :
    (∀ (raw₁ raw₂ : String) (p q : FieldPath),
      FieldPath.ofText raw₁ = .ok p → FieldPath.ofText raw₂ = .ok q →
      ∃ joined, FieldPath.ofText (p.text ++ "." ++ q.text) = .ok joined ∧
        joined.segments = p.segments ++ q.segments ∧
        ∀ record, joined.resolve record = (p.resolve record).bind q.resolve) ∧
    (∀ (name key value : String) (record : Json),
      (∀ i, IsLeast (selectedPlaces name key value record) i →
        resolveSegments [.filter name key value] record =
          resolveSegments [.index name i] record) ∧
      (selectedPlaces name key value record = ∅ →
        resolveSegments [.filter name key value] record = none)) ∧
    ∀ name key value : String, (PathSegment.filter name key value).IsWellFormed →
      ∀ record : Json,
        resolve record (name ++ "[" ++ key ++ "=" ++ value ++ "]") =
          resolveSegments [.filter name key value] record ∧
        ∀ i ≤ 2 ^ 64 - 1, resolve record (name ++ "[" ++ toString i ++ "]") =
          resolveSegments [.index name i] record := by
  refine ⟨fun raw₁ raw₂ p q hp hq => ?_, fun name key value record => ⟨fun i hi => ?_, fun h => ?_⟩,
    fun name key value hfilter record => ⟨?_, fun i hi => ?_⟩⟩
  · exact ⟨_, FieldPath.ofText_join hp hq, rfl, fun record => resolveSegments_append _ _ record⟩
  · rw [resolveSegments_singleton, resolveSegments_singleton, PathSegment.step_filter hi]
  · rw [resolveSegments_singleton, PathSegment.step_filter_eq_none h]
  · rw [← PathSegment.ofList_print_filter, PathSegment.resolve_print hfilter,
      resolveSegments_singleton]
  · cases hfilter with
    | filter hname =>
      rw [← PathSegment.ofList_print_index, PathSegment.resolve_print (.index hname hi),
        resolveSegments_singleton]

/-- Four parties, of which the third and the fourth have the number two. -/
def numberedParties : Json :=
  .obj [("parties", .arr [.str "2", .obj [("seq", .str "02")],
    .obj [("lei", .str "THIRD"), ("seq", .num (.int 2))],
    .obj [("lei", .str "FOURTH"), ("seq", .str "2")]])]

/-- Of the two parties with the number two the filter leads to the first one, whose number is no
string. The number three is nowhere. -/
theorem numberedParties_resolves_joined :
    FieldPath.ofText " trade " = .ok ⟨"trade", [.key "trade"]⟩ ∧
      FieldPath.ofText "parties[seq=2].lei" =
        .ok ⟨"parties[seq=2].lei", [.filter "parties" "seq" "2", .key "lei"]⟩ ∧
      (∃ joined, FieldPath.ofText "trade.parties[seq=2].lei" = .ok joined ∧
        joined.resolve (.obj [("trade", numberedParties)]) = some (.str "THIRD") ∧
        joined.resolve numberedParties = none) ∧
      IsLeast (selectedPlaces "parties" "seq" "2" numberedParties) 2 ∧
      selectedPlaces "parties" "seq" "3" numberedParties = ∅ ∧
      resolveSegments [.filter "parties" "seq" "3"] numberedParties = none ∧
      (PathSegment.filter "parties" "seq" "2").IsWellFormed ∧ 2 ≤ 2 ^ 64 - 1 ∧
      resolve numberedParties "parties[seq=2]" = resolve numberedParties "parties[2]" := by
  have hp : FieldPath.ofText " trade " = .ok ⟨"trade", [.key "trade"]⟩ := by decide +kernel
  have hq : FieldPath.ofText "parties[seq=2].lei" =
      .ok ⟨"parties[seq=2].lei", [.filter "parties" "seq" "2", .key "lei"]⟩ := by
    decide +kernel
  have hleast : IsLeast (selectedPlaces "parties" "seq" "2" numberedParties) 2 := by
    refine ⟨⟨_, _, rfl, rfl, _, _, rfl, rfl, .num (.int 2)⟩, fun i hi => ?_⟩
    obtain ⟨item, hitem, hmatches⟩ := (mem_selectedPlaces_iff rfl).1 hi
    match i with
    | 0 | 1 =>
      obtain rfl := Option.some.inj hitem
      exact absurd hmatches (by decide +kernel)
    | i + 2 => omega
  have hnone : selectedPlaces "parties" "seq" "3" numberedParties = ∅ := by
    refine Set.eq_empty_of_forall_notMem fun i hi => ?_
    obtain ⟨item, hitem, hmatches⟩ := (mem_selectedPlaces_iff rfl).1 hi
    match i with
    | 0 | 1 | 2 | 3 =>
      obtain rfl := Option.some.inj hitem
      exact absurd hmatches (by decide +kernel)
    | i + 4 => cases hitem
  have hfilter : (PathSegment.filter "parties" "seq" "2").IsWellFormed :=
    (FieldPath.areWellFormed_of_ofText hq).each _ List.mem_cons_self
  have hjoined := resolves_joined.1 _ _ _ _ hp hq
  obtain ⟨joined, hread, -, hresolve⟩ := hjoined
  have htexts := resolves_joined.2.2 "parties" "seq" "2" hfilter numberedParties
  refine ⟨hp, hq, ⟨joined, hread, ?_, ?_⟩, hleast, hnone,
    (resolves_joined.2.1 _ _ _ _).2 hnone, hfilter, by decide, ?_⟩
  · rw [hresolve]; rfl
  · rw [hresolve]; rfl
  · exact htexts.1.trans (((resolves_joined.2.1 _ _ _ _).1 2 hleast).trans
      (htexts.2 2 (by decide)).symm)

end RegulatoryReporting
