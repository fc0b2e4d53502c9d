import Mathlib.Data.Finset.Card
import RegulatoryReporting.Proofs.CapitalForms
import RegulatoryReporting.Proofs.ReadBack
import RegulatoryReporting.Proofs.StructureWire
import RegulatoryReporting.Reference.Codes

/-!
# What Reference Data Knows

Codes come to reference data in two ways: a text lists them for each register, and they are
added one by one. Either way a code is normalised once, and so is a code that is asked for.
This module shows that it does not matter how a code came, how it was spelt, how often it was
given or in what order: a register knows the set of the normalised codes that it was given.

All that was given is put into one list of additions, first what the document lists, register
by register, and then what was added (`Document.additions`). Reading a document is adding what it
lists to empty data (`ReferenceCodes.eq_addAll_of_decoder`), and a register that was added to is the
ascending list of what was given to it, whatever other registers were given
(`ReferenceCodes.codes_addAll`). Since a normalised code is its own normal form, nothing changes
when the data is written and read back.

## Main results

* `ReferenceCodes.contains_addAll_iff`, `ReferenceCodes.size_addAll` — what is known, and how much.
* `ReferenceCodes.IsNormal.ofText_print` — the data is read back from its text, in whatever order
  the registers are written.
* `ReferenceCodes.holds_listed_and_added` — all of it, for every text that is read and whatever is
  added later.
-/

namespace RegulatoryReporting

open Text (normalizeCode)

/-- A code that is given to a register. -/
abbrev Addition := ReferenceKind × String

/-! ### What a document lists -/

namespace Document

/-- The texts among the items of an array. -/
def texts : Document → List String
  | array items => items.filterMap fun
    | text s => some s
    | _ => none
  | _ => []

/-- The codes that a document lists for a register: in an object under its name, in an array at its
place. -/
def codesFor? (kind : ReferenceKind) : Document → Option (List String)
  | object members => (members.lookup (some kind.name)).map texts
  | array items => ((ReferenceKind.all.zip items).lookup kind).map texts
  | _ => none

/-- Everything that a document lists, register by register. -/
def additions (d : Document) : List Addition :=
  ReferenceKind.all.flatMap fun kind =>
    ((d.codesFor? kind).getD []).map fun code => (kind, code)

/-- What is read as a list of strings are the texts of the document. -/
theorem texts_of_list {m : Medium} {d : Document} {codes : List String}
    (h : Decoder.list Decoder.string m d = .ok codes) : d.texts = codes := by
  cases d with
  | array items =>
    rw [Decoder.list, Except.mapM_eq_ok_iff] at h
    rw [texts]
    induction h with
    | nil => rfl
    | @cons d code ds rest hcode _ ih =>
      cases d with
      | text s =>
        obtain rfl := Except.ok.inj hcode
        rw [List.filterMap_cons, ih]
      | _ => cases hcode
  | _ => cases h

end Document

namespace ReferenceCodes

variable {r : ReferenceCodes} {kind : ReferenceKind} {given : List Addition} {m : Medium}

/-! ### Additions -/

/-- Data is known by its registers. -/
theorem eq_of_codes_eq {r s : ReferenceCodes} (h : ∀ kind, r.codes kind = s.codes kind) :
    r = s := by
  obtain ⟨currencies, countries, mics⟩ := r
  obtain rfl : currencies = _ := h .currency
  obtain rfl : countries = _ := h .country
  obtain rfl : mics = _ := h .mic
  rfl

/-- Add codes one after the other. -/
def addAll (r : ReferenceCodes) (added : List Addition) : ReferenceCodes :=
  added.foldl (fun r a => r.insert a.1 a.2) r

/-- The normalised codes that a register was given. -/
def givenTo (kind : ReferenceKind) (given : List Addition) : List String :=
  (given.filter (·.1 = kind)).map fun a => normalizeCode a.2

/-- Further additions are made to what the first have left. -/
theorem addAll_append (r : ReferenceCodes) (first second : List Addition) :
    r.addAll (first ++ second) = (r.addAll first).addAll second :=
  List.foldl_append

/-- Adding several codes to one register is adding them one after the other. -/
theorem insertAll_eq_addAll (r : ReferenceCodes) (kind : ReferenceKind) (codes : List String) :
    r.insertAll kind codes = r.addAll (codes.map fun code => (kind, code)) := by
  rw [insertAll, addAll, List.foldl_map]

/-- A register takes what it is given, and nothing that is given to others. -/
theorem codes_addAll (r : ReferenceCodes) (kind : ReferenceKind) (given : List Addition) :
    (r.addAll given).codes kind = (givenTo kind given).foldl
      (fun codes code => Ordered.insert compare code codes) (r.codes kind) := by
  induction given generalizing r with
  | nil => rfl
  | cons a given ih =>
    have hcons : r.addAll (a :: given) = (r.insert a.1 a.2).addAll given := rfl
    rw [hcons, ih, codes_insert]
    by_cases h : a.1 = kind
    · subst h
      simp [givenTo]
    · have hother : ¬ kind = a.1 := fun heq => h heq.symm
      simp [givenTo, h, hother]

/-- A register that began empty is the ascending list of what it was given. -/
theorem codes_addAll_empty (kind : ReferenceKind) (given : List Addition) :
    (({} : ReferenceCodes).addAll given).codes kind =
      Ordered.ofList compare (givenTo kind given) := by
  rw [codes_addAll]
  cases kind <;> rfl

/-- What is read of lists is what is added, one list after the other. -/
theorem ofLists_eq_addAll (lists : ReferenceKind → List String) :
    ofLists (lists .currency) (lists .country) (lists .mic) =
      ({} : ReferenceCodes).addAll (ReferenceKind.all.flatMap fun kind =>
        (lists kind).map fun code => (kind, code)) := by
  simp only [ofLists, insertAll_eq_addAll, ← addAll_append, ReferenceKind.all, List.flatMap_cons,
    List.flatMap_nil, List.append_nil, List.append_assoc]

/-- What one list for each register gives to a register is its own list. -/
theorem givenTo_flatMap (kind : ReferenceKind) (lists : ReferenceKind → List String) :
    givenTo kind (ReferenceKind.all.flatMap fun kind => (lists kind).map fun code => (kind, code)) =
      (lists kind).map normalizeCode := by
  have hfilter : ∀ k, ((lists k).map fun code => (k, code)).filter (·.1 = kind) =
      if k = kind then (lists k).map fun code => (k, code) else [] := by
    intro k
    split
    next h =>
      refine List.filter_eq_self.2 fun a ha => ?_
      obtain ⟨code, -, rfl⟩ := List.mem_map.1 ha
      exact decide_eq_true h
    next h =>
      refine List.filter_eq_nil_iff.2 fun a ha => ?_
      obtain ⟨code, -, rfl⟩ := List.mem_map.1 ha
      simpa using h
  simp only [givenTo, ReferenceKind.all, List.flatMap_cons, List.flatMap_nil, List.append_nil,
    List.filter_append, hfilter]
  cases kind <;> simp

/-! ### What is known -/

/-- Codes that compare equal are equal. -/
theorem eq_of_compare_eq (a b : String) (h : compare a b = .eq) : a = b :=
  Std.LawfulEqCmp.eq_of_compare h

/-- A code is known exactly if one of the same normal form was given to the register. -/
theorem contains_addAll_iff {code : String} :
    (({} : ReferenceCodes).addAll given).contains kind code = true ↔
      ∃ c, (kind, c) ∈ given ∧ normalizeCode c = normalizeCode code := by
  rw [contains, List.contains_iff_mem, codes_addAll_empty, Ordered.mem_ofList eq_of_compare_eq]
  simp [givenTo, and_assoc]

/-- Data has as many codes as all its registers together. -/
theorem size_eq_sum (r : ReferenceCodes) :
    r.size = (ReferenceKind.all.map fun kind => (r.codes kind).length).sum := by
  simp [size, ReferenceKind.all, codes, Nat.add_assoc]

/-- The data has as many codes as there are different normal forms, register by register. -/
theorem size_addAll (given : List Addition) :
    (({} : ReferenceCodes).addAll given).size =
      (ReferenceKind.all.map fun kind => (givenTo kind given).toFinset.card).sum := by
  have hlength : ∀ codes : List String,
      (Ordered.ofList compare codes).length = codes.toFinset.card := by
    intro codes
    rw [← List.toFinset_card_of_nodup (Ordered.nodup_of_pairwise (Ordered.pairwise_ofList codes))]
    congr 1
    ext code
    simp [Ordered.mem_ofList eq_of_compare_eq]
  simp only [size_eq_sum, codes_addAll_empty, hlength]

/-! ### Reading -/

namespace Draft

variable {s t : Draft}

/-- The place of a register in a draft. -/
def place (s : Draft) : ReferenceKind → Option (List String)
  | .currency => s.currencies
  | .country => s.countries
  | .mic => s.mics

/-- The draft with the codes of a register set. -/
def put (s : Draft) (kind : ReferenceKind) (codes : List String) : Draft :=
  match kind with
  | .currency => { s with currencies := some codes }
  | .country => { s with countries := some codes }
  | .mic => { s with mics := some codes }

/-- The slot of a register. -/
def slot (kind : ReferenceKind) : Decoder.Slot Draft :=
  Decoder.slot kind.name false (Decoder.list Decoder.string) (·.place kind)
    fun s codes => s.put kind codes

@[simp] theorem place_put (s : Draft) (kind other : ReferenceKind) (codes : List String) :
    (s.put kind codes).place other = if other = kind then some codes else s.place other := by
  cases kind <;> cases other <;> rfl

/-- The members of reference data are one slot for each register. -/
theorem find?_slots (key : String) :
    slots.find? (·.key == key) = (ReferenceKind.all.find? (·.name == key)).map slot := by
  have hslots : slots = ReferenceKind.all.map slot := rfl
  rw [hslots, List.find?_map]
  rfl

/-- A register is found under its name. -/
theorem find?_slots_name (kind : ReferenceKind) :
    slots.find? (·.key == kind.name) = some (slot kind) := by
  cases kind <;> rfl

/-- What is made of a draft is what its places list. -/
theorem finish_eq (s : Draft) :
    s.finish = .ok (({} : ReferenceCodes).addAll (ReferenceKind.all.flatMap fun kind =>
      ((s.place kind).getD []).map fun code => (kind, code))) := by
  rw [← ofLists_eq_addAll fun kind => (s.place kind).getD []]
  rfl

/-- Reading the members of an object sets each empty place to what is listed under the name of
its register. -/
theorem place_of_visitMembers {members : List (Option String × Document)}
    (h : Decoder.visitMembers slots m members s = .ok t) (kind : ReferenceKind) :
    t.place kind =
      (s.place kind).or ((members.lookup (some kind.name)).map Document.texts) := by
  induction members generalizing s with
  | nil =>
    obtain rfl := Except.ok.inj h
    simp
  | cons member rest ih =>
    obtain ⟨_ | key, d⟩ := member
    · cases h
    rw [Decoder.visitMembers] at h
    split at h
    -- The member is of no register, and is skipped.
    next hslot =>
      have hother : (some kind.name == some key) = false := by
        refine beq_eq_false_iff_ne.2 fun heq => ?_
        rw [← Option.some.inj heq, find?_slots_name] at hslot
        cases hslot
      split at h
      · rw [ih h, List.lookup_cons, hother]
      · cases h
    next found hslot =>
      rw [find?_slots] at hslot
      obtain ⟨own, hown, rfl⟩ := Option.map_eq_some_iff.1 hslot
      obtain rfl : own.name = key := by simpa using List.find?_some hown
      split at h
      · cases h
      next hfilled =>
      obtain ⟨u, hu, h⟩ := Except.bind_eq_ok_iff.1 h
      obtain ⟨codes, hcodes, rfl⟩ := Except.map_eq_ok_iff.1 hu
      have hempty : s.place own = none := by simpa [slot, Decoder.slot] using hfilled
      rw [ih h, place_put, ← Document.texts_of_list hcodes, List.lookup_cons]
      by_cases hkind : kind = own
      · subst hkind
        simp [hempty]
      · have hother : (some kind.name == some own.name) = false := by
          cases kind <;> cases own <;> first | exact absurd rfl hkind | rfl
        rw [if_neg hkind, hother]

/-- Reading the items of an array sets the places of the registers in their order. -/
theorem place_of_visitItems {name : String} {total position : Nat} {kinds : List ReferenceKind}
    {items : List Document} (hkinds : kinds.Nodup)
    (h : Decoder.visitItems name m total position (kinds.map slot) items s = .ok t)
    (kind : ReferenceKind) :
    t.place kind = (((kinds.zip items).lookup kind).map Document.texts).or (s.place kind) := by
  induction kinds generalizing position items s with
  | nil =>
    cases items with
    | nil =>
      obtain rfl := Except.ok.inj h
      simp
    | cons _ _ => cases h
  | cons own kinds ih =>
    obtain ⟨hown, hkinds⟩ := List.nodup_cons.1 hkinds
    cases items with
    | nil => simpa using ih hkinds h
    | cons d ds =>
      obtain ⟨u, hu, h⟩ := Except.bind_eq_ok_iff.1 h
      obtain ⟨codes, hcodes, rfl⟩ := Except.map_eq_ok_iff.1 hu
      rw [ih hkinds h, place_put, ← Document.texts_of_list hcodes, List.zip_cons_cons,
        List.lookup_cons]
      by_cases hkind : kind = own
      · subst hkind
        have hlater : (kinds.zip ds).lookup kind = none :=
          List.lookup_eq_none_iff.2 fun p hp => by
            have hmem := (List.of_mem_zip hp).1
            exact bne_iff_ne.2 fun heq => hown (heq ▸ hmem)
        simp [hlater]
      · rw [if_neg hkind, beq_eq_false_iff_ne.2 hkind]

end Draft

/-- Reading a document is adding everything that it lists to empty data. -/
theorem eq_addAll_of_decoder {d : Document} (h : decoder m d = .ok r) :
    r = ({} : ReferenceCodes).addAll d.additions := by
  have hadditions : ∀ s : Draft, s.finish = .ok r → (∀ kind, s.place kind = d.codesFor? kind) →
      r = ({} : ReferenceCodes).addAll d.additions := by
    intro s hfinish hplaces
    rw [Draft.finish_eq] at hfinish
    simp only [hplaces] at hfinish
    exact (Except.ok.inj hfinish).symm
  cases d with
  | object members =>
    obtain ⟨s, hs, hfinish⟩ := Except.bind_eq_ok_iff.1 h
    refine hadditions s hfinish fun kind => ?_
    rw [Draft.place_of_visitMembers hs kind]
    cases kind <;> rfl
  | array items =>
    obtain ⟨s, hs, hfinish⟩ := Except.bind_eq_ok_iff.1 h
    refine hadditions s hfinish fun kind => ?_
    have hnodup : ReferenceKind.all.Nodup := by decide
    rw [Draft.place_of_visitItems hnodup hs kind]
    cases kind <;> exact Option.or_none
  | _ => cases h

/-! ### Writing -/

/-- The data written with its registers in a given order. -/
def written (r : ReferenceCodes) (kinds : List ReferenceKind) : Json :=
  .obj (kinds.map fun kind => (kind.name, .ofStrings (r.codes kind)))

/-- The wire form has the registers in the order of their names. -/
theorem toJson_eq_written (r : ReferenceCodes) :
    r.toJson = r.written [.country, .currency, .mic] := rfl

/-- Data as it comes about by additions: every register ascends, and its codes are their own
normal forms. -/
structure IsNormal (r : ReferenceCodes) : Prop where
  ascending : ∀ kind, (r.codes kind).Pairwise (compare · · = .lt)
  settled : ∀ kind, ∀ code ∈ r.codes kind, normalizeCode code = code

/-- Whatever is added to empty data leaves it normal. -/
theorem isNormal_addAll (given : List Addition) :
    (({} : ReferenceCodes).addAll given).IsNormal := by
  refine ⟨fun kind => ?_, fun kind code hcode => ?_⟩
  · rw [codes_addAll_empty]
    exact Ordered.pairwise_ofList _
  · rw [codes_addAll_empty, Ordered.mem_ofList eq_of_compare_eq] at hcode
    obtain ⟨a, -, rfl⟩ := List.mem_map.1 hcode
    exact Text.normalizeCode_normalizeCode _

/-- Normal data is what comes about when its own codes are added. -/
theorem IsNormal.addAll_codes (h : r.IsNormal) :
    ({} : ReferenceCodes).addAll (ReferenceKind.all.flatMap fun kind =>
      (r.codes kind).map fun code => (kind, code)) = r := by
  refine eq_of_codes_eq fun kind => ?_
  have hsettled : (r.codes kind).map normalizeCode = r.codes kind :=
    (List.map_congr_left (h.settled kind)).trans (List.map_id _)
  rw [codes_addAll_empty, givenTo_flatMap, hsettled]
  exact Ordered.eq_of_mem_iff (Ordered.pairwise_ofList _) (h.ascending kind)
    fun code => Ordered.mem_ofList eq_of_compare_eq

/-- Lists of codes that are written under the names of their registers are read into the places
of these registers. -/
theorem exists_takesTo {kinds : List ReferenceKind} {s : Draft}
    (lists : ReferenceKind → List String) (hkinds : kinds.Nodup)
    (hempty : ∀ kind ∈ kinds, s.place kind = none) :
    ∃ t, Decoder.TakesTo slots (kinds.map (·.name))
        (kinds.map fun kind => (kind.name, .ofStrings (lists kind))) s t ∧
      ∀ kind, t.place kind = if kind ∈ kinds then some (lists kind) else s.place kind := by
  induction kinds generalizing s with
  | nil => exact ⟨s, Decoder.takesTo_nil, fun kind => by simp⟩
  | cons own kinds ih =>
    obtain ⟨hown, hkinds⟩ := List.nodup_cons.1 hkinds
    obtain ⟨hfirst, hrest⟩ := List.forall_mem_cons.1 hempty
    have hlater : ∀ kind ∈ kinds, (s.put own (lists own)).place kind = none := by
      intro kind hmem
      have hother : kind ≠ own := fun heq => hown (heq ▸ hmem)
      rw [Draft.place_put, if_neg hother, hrest kind hmem]
    obtain ⟨t, htakes, hplaces⟩ := ih hkinds hlater
    refine ⟨t, Decoder.takesTo_cons (Draft.find?_slots_name own) hfirst
      (Decoder.isWireForm_strings _) htakes, fun kind => ?_⟩
    rw [hplaces, Draft.place_put]
    by_cases hkind : kind = own
    · subst hkind
      simp [hown]
    · simp [hkind]

/-- Normal data is read back from its text, in whatever order its registers are written. -/
theorem IsNormal.ofText_print (h : r.IsNormal) {kinds : List ReferenceKind}
    (hkinds : kinds.Perm ReferenceKind.all) : ofText (r.written kinds).print = .ok r := by
  have hread : (r.written kinds).IsReadBack Document.maxNesting := by
    refine Json.isReadBack_obj (List.forall_mem_map.2 fun kind _ => ?_)
    refine Json.isReadBack_arr (List.forall_mem_map.2 fun code _ => ?_)
    exact Json.isReadBack_str _ code
  have hnodup : kinds.Nodup := hkinds.nodup_iff.2 (by decide)
  have hall : ∀ kind, kind ∈ kinds := fun kind => hkinds.mem_iff.2 (by cases kind <;> decide)
  obtain ⟨t, htakes, hplaces⟩ := exists_takesTo (s := {}) r.codes hnodup
    fun kind _ => by cases kind <;> rfl
  have hfinish : t.finish = .ok r := by
    rw [Draft.finish_eq]
    simp only [hplaces, hall, if_true, Option.getD_some, h.addAll_codes]
  have hdecode : decoder .text (.ofValue (r.written kinds)) = .ok r := by
    rw [written, Document.ofValue, decoder, Decoder.structured, htakes.reads]
    exact hfinish
  rw [ofText, Decoder.ofText, Document.ofText_print hread]
  simp only [hdecode, if_true]

/-! ### All that was given -/

/-- Data holds what was given to its registers, and nothing else: as a set of normal forms for
each register, counted once each, apart from the other registers, and for good. -/
structure Holds (r : ReferenceCodes) (given : List Addition) : Prop where
  known : ∀ kind code, r.contains kind code = true ↔
    ∃ c, (kind, c) ∈ given ∧ normalizeCode c = normalizeCode code
  apart : ∀ kind added, (∀ a ∈ added, a.1 ≠ kind) →
    (r.addAll added).contains kind = r.contains kind
  counted : r.size = (ReferenceKind.all.map fun kind => (givenTo kind given).toFinset.card).sum
  readBack : ofText r.toJson.print = .ok r
  readBackInAnyOrder : ∀ kinds, kinds.Perm ReferenceKind.all →
    ofText (r.written kinds).print = .ok r

/-- What is given to other registers changes no answer. -/
theorem contains_addAll_of_forall_ne {added : List Addition} (h : ∀ a ∈ added, a.1 ≠ kind) :
    (r.addAll added).contains kind = r.contains kind := by
  have hnone : givenTo kind added = [] := by
    rw [givenTo, List.filter_eq_nil_iff.2 fun a ha => by simpa using h a ha, List.map_nil]
  funext code
  rw [contains, contains, codes_addAll, hnone, List.foldl_nil]

/-- Empty data that codes were added to holds them. -/
theorem holds_addAll (given : List Addition) :
    (({} : ReferenceCodes).addAll given).Holds given where
  known _ _ := contains_addAll_iff
  apart _ _ := contains_addAll_of_forall_ne
  counted := size_addAll given
  readBack := by
    rw [toJson_eq_written]
    exact (isNormal_addAll given).ofText_print (by decide)
  readBackInAnyOrder _ := (isNormal_addAll given).ofText_print

/-- The data of a text, to which codes were added one by one, holds what the text lists and what
was added. -/
theorem holds_listed_and_added {text : String} (h : ofText text = .ok r) (added : List Addition) :
    (r.addAll added).Holds ((Document.ofText text).1.additions ++ added) := by
  have hdecode : decoder .text (Document.ofText text).1 = .ok r := by
    simp only [ofText, Decoder.ofText] at h
    split at h
    · cases h
    next a ha =>
    split at h
    · rw [ha, h]
    · cases h
  rw [eq_addAll_of_decoder hdecode, ← addAll_append]
  exact holds_addAll _

/-- Two spellings of one currency, a market in small letters, and a country that is added. -/
theorem spelledCodes_held :
    let text := "\x7b\"CURRENCY\": [\"EUR\", \" usd\", \"Eur \"], \"MIC\": [\"xlon\"]\x7d"
    ofText text = .ok { currencies := ["EUR", "USD"], mics := ["XLON"] } ∧
      (Document.ofText text).1.additions =
        [(.currency, "EUR"), (.currency, " usd"), (.currency, "Eur "), (.mic, "xlon")] ∧
      (({ currencies := ["EUR", "USD"], mics := ["XLON"] } : ReferenceCodes).addAll
        [(.country, "de")]).Holds ((Document.ofText text).1.additions ++ [(.country, "de")]) := by
  intro text
  have hread : ofText text = .ok { currencies := ["EUR", "USD"], mics := ["XLON"] } := by cbv
  exact ⟨hread, by cbv, holds_listed_and_added hread [(.country, "de")]⟩

end ReferenceCodes

end RegulatoryReporting
