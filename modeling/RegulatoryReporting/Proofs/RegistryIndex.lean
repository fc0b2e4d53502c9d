import Mathlib.Data.List.Nodup
import RegulatoryReporting.Registry.Basic

/-!
# The Index of a Registry

A registry answers from its index, never by searching its packages. The two agree: the index
that a list of packages leaves behind describes the list (`PackageIndex.Describes`), that is,
the place under an id is that of the first package with this id, and the places under a
regulation code are those of the packages with this code, in order.

Packages enter one after the other. A package that is refused ends the loading, so what is
reported is the first package that fails its verification or repeats an id; the packages
before it are in order (`PackageIndex.addAll_cases`).

## Main results

* `PackageIndex.Describes.insert` — a package with a new id keeps the index right.
* `PackageIndex.addAll_cases` — what loading packages leaves behind, or who is to blame.
* `Registry.exists_ofPackages_iff` — which packages make a registry.
* `Registry.ofPackages_lookups` — what a registry finds under a key.
-/

namespace RegulatoryReporting

/-! ### Packages that fit together -/

/-- Packages that make a registry: each is accepted, and no two have the same id. -/
structure Acceptable (ps : List Package) : Prop where
  /-- Every package is accepted. -/
  verified : ∀ p ∈ ps, p.verify = .ok ()
  /-- No id occurs twice. -/
  nodup : (ps.map (·.idKey)).Nodup

/-- Why a package cannot follow the packages before it. -/
inductive Package.Refused (before : List Package) (p : Package) : RegistryError → Prop
  /-- It is not accepted. -/
  | invalid {cause : VerificationError} (h : p.verify = .error cause) :
    Refused before p (.invalid cause)
  /-- It is accepted, but one before it has the same id. -/
  | duplicate (h : p.verify = .ok ()) (hbefore : p.idKey ∈ before.map (·.idKey)) :
    Refused before p (.duplicate p.id)

variable {ps : List Package} {p : Package}

/-- No packages make a registry. -/
theorem acceptable_nil : Acceptable [] := ⟨by simp, List.nodup_nil⟩

/-- One more package can follow if it is accepted and its id is new. -/
theorem acceptable_append_singleton :
    Acceptable (ps ++ [p]) ↔
      Acceptable ps ∧ p.verify = .ok () ∧ p.idKey ∉ ps.map (·.idKey) := by
  constructor
  · rintro ⟨hverified, hnodup⟩
    rw [List.map_append, List.map_singleton, List.nodup_append] at hnodup
    obtain ⟨hps, -, hdisjoint⟩ := hnodup
    refine ⟨⟨fun q hq => hverified q (List.mem_append_left _ hq), hps⟩, ?_, fun hmem => ?_⟩
    · exact hverified p (List.mem_append_right _ (List.mem_singleton_self p))
    · exact hdisjoint _ hmem _ (List.mem_singleton_self _) rfl
  · rintro ⟨⟨hverified, hnodup⟩, hp, hfresh⟩
    refine ⟨fun q hq => ?_, ?_⟩
    · rcases List.mem_append.1 hq with hq | hq
      · exact hverified q hq
      · obtain rfl := List.mem_singleton.1 hq
        exact hp
    · rw [List.map_append, List.map_singleton, List.nodup_append]
      refine ⟨hnodup, by simp, fun a ha b hb hab => ?_⟩
      obtain rfl := List.mem_singleton.1 hb
      exact hfresh (hab ▸ ha)

/-- The first of some packages that make a registry make one. -/
theorem Acceptable.of_append {qs : List Package} (h : Acceptable (ps ++ qs)) :
    Acceptable ps where
  verified q hq := h.verified q (List.mem_append_left qs hq)
  nodup := by
    have hnodup := h.nodup
    rw [List.map_append] at hnodup
    exact (List.nodup_append.1 hnodup).1

/-- Packages with a refused one among them make no registry. -/
theorem Package.Refused.not_acceptable {before after : List Package} {fault : RegistryError}
    (h : p.Refused before fault) : ¬ Acceptable (before ++ p :: after) := by
  intro hok
  have hsplit : before ++ p :: after = (before ++ [p]) ++ after := by simp
  rw [hsplit] at hok
  obtain ⟨-, hverified, hfresh⟩ := acceptable_append_singleton.1 hok.of_append
  cases h with
  | invalid hinvalid =>
    rw [hverified] at hinvalid
    cases hinvalid
  | duplicate _ hbefore => exact hfresh hbefore

/-- Among packages with different ids a package is determined by its id. -/
theorem Acceptable.find?_eq_some_iff (h : Acceptable ps) {key : String} :
    (ps.find? fun q => q.idKey == key) = some p ↔ p ∈ ps ∧ p.idKey = key := by
  constructor
  · intro hfound
    exact ⟨List.mem_of_find?_eq_some hfound, by simpa using List.find?_some hfound⟩
  · rintro ⟨hmem, rfl⟩
    obtain ⟨q, hq⟩ : ∃ q, (ps.find? fun q => q.idKey == p.idKey) = some q :=
      Option.isSome_iff_exists.1 (List.find?_isSome.2 ⟨p, hmem, beq_self_eq_true _⟩)
    have hkey : q.idKey = p.idKey := by simpa using List.find?_some hq
    have hsame := List.inj_on_of_nodup_map h.nodup (List.mem_of_find?_eq_some hq) hmem hkey
    rw [hq, hsame]

namespace PackageIndex

/-! ### What an index says about a list -/

/-- An index tells where the packages of a list stand: the first of an id, and all of a
regulation code in order. -/
structure Describes (index : PackageIndex) (ps : List Package) : Prop where
  /-- The place under an id. -/
  ids : ∀ key, (index.placeOf? key).map (ps[·]?) = (ps.find? fun p => p.idKey == key).map some
  /-- The places under a regulation code. -/
  codes : ∀ key, (index.placesOf key).map (ps[·]?) =
    (ps.filter fun p => p.codeKey == key).map some

variable {index : PackageIndex}

/-- The empty index describes the empty list. -/
theorem describes_empty : Describes {} [] := ⟨fun _ => rfl, fun _ => rfl⟩

/-- What stands under an id after an insertion. -/
theorem placeOf?_insert (index : PackageIndex) (place : Nat) (p : Package) (key : String) :
    (index.insert place p).placeOf? key =
      if key = p.idKey then some place else index.placeOf? key := by
  rw [placeOf?, insert, Ordered.lookup_insertEntry]
  rfl

/-- What stands under a regulation code after an insertion. -/
theorem placesOf_insert (index : PackageIndex) (place : Nat) (p : Package) (key : String) :
    (index.insert place p).placesOf key =
      if key = p.codeKey then index.placesOf key ++ [place] else index.placesOf key := by
  rw [placesOf, insert, Ordered.lookup_insertEntry]
  split
  next h => rw [Option.getD_some, h]
  · rfl

/-- There is no place under an id exactly when no package has it. -/
theorem Describes.placeOf?_eq_none_iff (h : index.Describes ps) {key : String} :
    index.placeOf? key = none ↔ key ∉ ps.map (·.idKey) := by
  have hids := h.ids key
  rw [← Option.map_eq_none_iff, hids, Option.map_eq_none_iff, List.find?_eq_none]
  simp

/-- A place of the list is one of the longer list, with the same package. -/
theorem getElem?_append_of_eq_some {place : Nat} (h : ps[place]? = some p)
    (qs : List Package) : (ps ++ qs)[place]? = some p := by
  obtain ⟨hlt, -⟩ := List.getElem?_eq_some_iff.1 h
  rw [List.getElem?_append_left hlt, h]

/-- The index stays right for the places that it knows when the list grows. -/
theorem Describes.map_placesOf_append (h : index.Describes ps) (key : String)
    (qs : List Package) :
    (index.placesOf key).map ((ps ++ qs)[·]?) = (ps.filter fun p => p.codeKey == key).map some := by
  rw [← h.codes key]
  refine List.map_congr_left fun place hplace => ?_
  have hmem : ps[place]? ∈ (index.placesOf key).map (ps[·]?) := List.mem_map_of_mem hplace
  rw [h.codes key] at hmem
  obtain ⟨q, -, hq⟩ := List.mem_map.1 hmem
  rw [← hq, getElem?_append_of_eq_some hq.symm qs]

/-- A package with a new id keeps the index right. -/
theorem Describes.insert (h : index.Describes ps) (hfresh : p.idKey ∉ ps.map (·.idKey)) :
    (index.insert ps.length p).Describes (ps ++ [p]) where
  ids key := by
    have hlast : (ps ++ [p])[ps.length]? = some p := List.getElem?_concat_length
    rw [placeOf?_insert, List.find?_append]
    split
    next hkey =>
      subst hkey
      have hnone : (ps.find? fun q => q.idKey == p.idKey) = none := by
        rw [List.find?_eq_none]
        intro q hq hsame
        exact hfresh (beq_iff_eq.1 hsame ▸ List.mem_map_of_mem hq)
      rw [hnone, Option.none_or, List.find?_singleton, beq_self_eq_true, if_pos rfl,
        Option.map_some, Option.map_some, hlast]
    next hkey =>
      have hother : (p.idKey == key) = false := beq_eq_false_iff_ne.2 (Ne.symm hkey)
      rw [List.find?_singleton, hother, if_neg Bool.false_ne_true, Option.or_none, ← h.ids key]
      cases hplace : index.placeOf? key with
      | none => rfl
      | some place =>
        have hids := h.ids key
        rw [hplace, Option.map_some] at hids
        obtain ⟨q, -, hq⟩ := Option.map_eq_some_iff.1 hids.symm
        rw [Option.map_some, Option.map_some, ← hq, getElem?_append_of_eq_some hq.symm]
  codes key := by
    have hlast : (ps ++ [p])[ps.length]? = some p := List.getElem?_concat_length
    rw [placesOf_insert, List.filter_append, List.map_append]
    split
    next hkey =>
      have hnew : (p.codeKey == key) = true := beq_iff_eq.2 hkey.symm
      rw [List.map_append, h.map_placesOf_append, List.map_singleton, hlast,
        List.filter_singleton, hnew, cond_true, List.map_singleton]
    next hkey =>
      have hother : (p.codeKey == key) = false := beq_eq_false_iff_ne.2 (Ne.symm hkey)
      rw [h.map_placesOf_append, List.filter_singleton, hother, cond_false, List.map_nil,
        List.append_nil]

/-! ### Loading packages -/

/-- One package enters the index, or it is refused. -/
theorem add_cases (h : index.Describes ps) (p : Package) :
    match index.add ps.length p with
    | .ok next => next.Describes (ps ++ [p]) ∧ p.verify = .ok () ∧ p.idKey ∉ ps.map (·.idKey)
    | .error fault => p.Refused ps fault := by
  rw [add]
  cases hverify : p.verify with
  | error cause => exact .invalid hverify
  | ok =>
    cases hplace : index.placeOf? p.idKey with
    | none =>
      have hfresh := h.placeOf?_eq_none_iff.1 hplace
      exact ⟨h.insert hfresh, rfl, hfresh⟩
    | some place =>
      refine .duplicate hverify ?_
      by_contra hfresh
      rw [h.placeOf?_eq_none_iff.2 hfresh] at hplace
      cases hplace

/-- Packages enter the index one after the other. Either all of them do, and the index
describes the list with them, or there is a first one that is refused. -/
theorem addAll_cases (h : index.Describes ps) (hok : Acceptable ps) (rest : List Package) :
    match index.addAll ps.length rest with
    | .ok next => next.Describes (ps ++ rest) ∧ Acceptable (ps ++ rest)
    | .error fault => ∃ mid p after, rest = mid ++ p :: after ∧ Acceptable (ps ++ mid) ∧
        p.Refused (ps ++ mid) fault := by
  induction rest generalizing ps index with
  | nil =>
    rw [addAll, List.append_nil]
    exact ⟨h, hok⟩
  | cons p rest ih =>
    have hstep := add_cases h p
    rw [addAll]
    cases hadd : index.add ps.length p with
    | error fault =>
      rw [hadd] at hstep
      exact ⟨[], p, rest, rfl, by rwa [List.append_nil], by rwa [List.append_nil]⟩
    | ok next =>
      rw [hadd] at hstep
      obtain ⟨hnext, hverified, hfresh⟩ := hstep
      have hlength : ps.length + 1 = (ps ++ [p]).length := by simp
      have hrest := ih hnext (acceptable_append_singleton.2 ⟨hok, hverified, hfresh⟩)
      have hassoc : ∀ qs, ps ++ p :: qs = (ps ++ [p]) ++ qs := by simp
      simp only [bind, Except.bind, hlength]
      cases hall : next.addAll (ps ++ [p]).length rest with
      | ok last =>
        rw [hall] at hrest
        rw [hassoc]
        exact hrest
      | error fault =>
        rw [hall] at hrest
        obtain ⟨mid, q, after, rfl, hmid, hq⟩ := hrest
        exact ⟨p :: mid, q, after, rfl, by rwa [hassoc], by rwa [hassoc]⟩

end PackageIndex

namespace Registry

/-! ### Registries -/

/-- Packages either make a registry, whose index describes them, or there is a first one that
is refused. -/
theorem ofPackages_cases (ps : List Package) :
    match ofPackages ps with
    | .ok r => r.packages = ps ∧ r.index.Describes ps ∧ Acceptable ps
    | .error fault => ∃ before p after, ps = before ++ p :: after ∧ Acceptable before ∧
        p.Refused before fault := by
  have h := PackageIndex.addAll_cases PackageIndex.describes_empty acceptable_nil ps
  rw [List.length_nil] at h
  rw [ofPackages]
  cases hall : PackageIndex.addAll {} 0 ps with
  | ok index =>
    rw [hall] at h
    exact ⟨rfl, h⟩
  | error fault =>
    rw [hall] at h
    exact h

/-- Packages make a registry exactly when each is accepted and no two have the same id. -/
theorem exists_ofPackages_iff {ps : List Package} :
    (∃ r, ofPackages ps = .ok r) ↔ Acceptable ps := by
  have h := ofPackages_cases ps
  cases hmake : ofPackages ps with
  | ok r =>
    rw [hmake] at h
    exact ⟨fun _ => h.2.2, fun _ => ⟨r, rfl⟩⟩
  | error fault =>
    rw [hmake] at h
    obtain ⟨before, p, after, rfl, -, hrefused⟩ := h
    constructor
    · rintro ⟨r, hr⟩
      cases hr
    · intro hok
      exact absurd hok hrefused.not_acceptable

section

variable {r : Registry} (h : ofPackages ps = .ok r)

include h

/-- A registry keeps its packages in order. -/
theorem packages_of_ofPackages : r.packages = ps := by
  have hcases := ofPackages_cases ps
  rw [h] at hcases
  exact hcases.1

/-- The packages of a registry are acceptable. -/
theorem acceptable_of_ofPackages : Acceptable ps := exists_ofPackages_iff.1 ⟨r, h⟩

/-- What an id names is the package of the list that has it. -/
theorem get?_of_ofPackages (key : String) :
    r.get? key = ps.find? fun p => p.idKey == Text.normalizeCode key := by
  have hcases := ofPackages_cases ps
  rw [h] at hcases
  obtain ⟨hpackages, hindex, -⟩ := hcases
  have hids := hindex.ids (Text.normalizeCode key)
  rw [get?, hpackages]
  cases hplace : r.index.placeOf? (Text.normalizeCode key) with
  | none =>
    rw [hplace] at hids
    exact (Option.map_eq_none_iff.1 hids.symm).symm
  | some place =>
    rw [hplace, Option.map_some] at hids
    obtain ⟨p, hfound, hp⟩ := Option.map_eq_some_iff.1 hids.symm
    rw [hfound, Option.bind_some, hp]

/-- What a regulation code names are the packages of the list that have it, in order. -/
theorem ofRegulation_of_ofPackages (code : String) :
    r.ofRegulation code = ps.filter fun p => p.codeKey == Text.normalizeCode code := by
  have hcases := ofPackages_cases ps
  rw [h] at hcases
  obtain ⟨hpackages, hindex, -⟩ := hcases
  calc r.ofRegulation code
      = ((r.index.placesOf (Text.normalizeCode code)).map (ps[·]?)).filterMap id := by
        rw [ofRegulation, hpackages, List.filterMap_map]
        rfl
    _ = ps.filter fun p => p.codeKey == Text.normalizeCode code := by
        rw [hindex.codes, List.filterMap_map]
        exact List.filterMap_some

end

/-- A key finds the package of this id; without one it finds the only package of this
regulation code. -/
theorem find_eq_ok_iff {r : Registry} {key : String} {p : Package} :
    r.find key = .ok p ↔
      r.get? key = some p ∨ r.get? key = none ∧ r.ofRegulation key = [p] := by
  rw [find]
  cases r.get? key with
  | some q => simp
  | none =>
    cases r.ofRegulation key with
    | nil => simp
    | cons first rest => cases rest <;> simp

/-- A key that finds nothing is reported as it is written. -/
theorem find_eq_error_iff {r : Registry} {key : String} {fault : PackageNotFound} :
    r.find key = .error fault ↔
      fault = ⟨key⟩ ∧ r.get? key = none ∧ ∀ p, r.ofRegulation key ≠ [p] := by
  rw [find]
  cases r.get? key with
  | some q => simp
  | none =>
    cases r.ofRegulation key with
    | nil => simp [eq_comm]
    | cons first rest => cases rest <;> simp [eq_comm]

/-- **The index of a registry is right.** Packages make a registry exactly when each is
accepted and no two ids are the same without blanks and case; otherwise the error is that of
the first package that is not accepted or repeats the id of one before it.

In a registry, an id names the package of the list that has it, a regulation code names the
sublist of those that have it, and a key names the package of this id, else the only one of
this regulation code, else nothing. -/
theorem ofPackages_lookups (ps : List Package) :
    ((∃ r, ofPackages ps = .ok r) ↔
      (∀ p ∈ ps, p.verify = .ok ()) ∧ (ps.map fun p => Text.normalizeCode p.id).Nodup) ∧
    (∀ fault, ofPackages ps = .error fault →
      ∃ before p after, ps = before ++ p :: after ∧
        (∀ q ∈ before, q.verify = .ok ()) ∧
        (before.map fun q => Text.normalizeCode q.id).Nodup ∧
        ((∃ cause, p.verify = .error cause ∧ fault = .invalid cause) ∨
          p.verify = .ok () ∧ fault = .duplicate p.id ∧
            ∃ q ∈ before, Text.normalizeCode q.id = Text.normalizeCode p.id)) ∧
    (∀ r, ofPackages ps = .ok r →
      r.packages = ps ∧
      (∀ p ∈ ps, r.get? p.id = some p) ∧
      ∀ key,
        (∀ p, r.get? key = some p ↔
          p ∈ ps ∧ Text.normalizeCode p.id = Text.normalizeCode key) ∧
        (r.ofRegulation key =
          ps.filter fun p => Text.normalizeCode p.regulationCode == Text.normalizeCode key) ∧
        (∀ p, r.find key = .ok p ↔
          r.get? key = some p ∨ r.get? key = none ∧ r.ofRegulation key = [p]) ∧
        (∀ fault, r.find key = .error fault ↔
          fault = ⟨key⟩ ∧ r.get? key = none ∧ ∀ p, r.ofRegulation key ≠ [p])) := by
  refine ⟨?_, ?_, ?_⟩
  · rw [exists_ofPackages_iff]
    exact ⟨fun hok => ⟨hok.verified, hok.nodup⟩, fun hok => ⟨hok.1, hok.2⟩⟩
  · intro fault hfault
    have hcases := ofPackages_cases ps
    rw [hfault] at hcases
    obtain ⟨before, p, after, hsplit, hbefore, hrefused⟩ := hcases
    refine ⟨before, p, after, hsplit, hbefore.verified, hbefore.nodup, ?_⟩
    cases hrefused with
    | invalid hinvalid => exact .inl ⟨_, hinvalid, rfl⟩
    | duplicate hverified hmem =>
      obtain ⟨q, hq, hkey⟩ := List.mem_map.1 hmem
      exact .inr ⟨hverified, rfl, q, hq, hkey⟩
  · intro r hr
    have hok := acceptable_of_ofPackages hr
    have hget : ∀ key p, r.get? key = some p ↔
        p ∈ ps ∧ Text.normalizeCode p.id = Text.normalizeCode key := by
      intro key p
      rw [get?_of_ofPackages hr]
      exact hok.find?_eq_some_iff
    refine ⟨packages_of_ofPackages hr, fun p hp => (hget p.id p).2 ⟨hp, rfl⟩, fun key => ?_⟩
    exact ⟨hget key, ofRegulation_of_ofPackages hr key, fun p => find_eq_ok_iff,
      fun fault => find_eq_error_iff⟩

end Registry

end RegulatoryReporting
