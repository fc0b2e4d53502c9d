import Mathlib
import RegulatoryReporting.Text.Case

/-!
# Two Ways to Compare Codes

Codes are compared in two ways: in full capitals after trimming (`Text.normalizeCode`), or
as they are, but for the case of ASCII letters (`Text.asciiCaseEq`). The second way is finer.
Texts that are equal in it have equal capitals, since a letter of ASCII and its other case
have the same capital; and blanks stay blanks, so they may be trimmed first. The converse
holds in ASCII and nowhere else: `Ä` and `ä` have one capital form, as have `ß` and `SS`.

## Main results

* `Text.normalizeCode_eq_of_asciiCaseEq` — equality up to ASCII case is the finer one.
* `Text.asciiCaseEq_trim_iff_of_isAscii` — on ASCII texts the two agree.
* `Text.trim_eq_self_of_asciiCaseEq` — what equals a trimmed text has no blanks around it.
-/

namespace RegulatoryReporting.Text

variable {s t u : String}

/-! ### Equality up to ASCII case -/

/-- Texts are equal up to ASCII case when their characters in small letters are equal. -/
theorem asciiCaseEq_iff :
    asciiCaseEq s t = true ↔ s.toList.map Char.toLower = t.toList.map Char.toLower :=
  beq_iff_eq

/-- A text equals itself. -/
theorem asciiCaseEq_refl (s : String) : asciiCaseEq s s = true := asciiCaseEq_iff.2 rfl

/-- Equality up to ASCII case is symmetric. -/
theorem asciiCaseEq_symm (h : asciiCaseEq s t = true) : asciiCaseEq t s = true :=
  asciiCaseEq_iff.2 (asciiCaseEq_iff.1 h).symm

/-- Equality up to ASCII case is transitive. -/
theorem asciiCaseEq_trans (hst : asciiCaseEq s t = true) (htu : asciiCaseEq t u = true) :
    asciiCaseEq s u = true :=
  asciiCaseEq_iff.2 ((asciiCaseEq_iff.1 hst).trans (asciiCaseEq_iff.1 htu))

/-- Where a capital letter of ASCII and its small form stand. -/
theorem toNat_toLower_of_isUpper {c : Char} (h : c.isUpper = true) :
    (65 ≤ c.toNat ∧ c.toNat ≤ 90) ∧ c.toLower.toNat = c.toNat + 32 := by
  have hrange : 65 ≤ c.toNat ∧ c.toNat ≤ 90 := by
    simpa [Char.isUpper, UInt32.le_iff_toNat_le] using h
  refine ⟨hrange, ?_⟩
  rw [Char.toLower_eq_of_isUpper h, Char.toNat_ofNat, if_pos (.inl (by omega))]

/-! ### Blanks -/

/-- A map that keeps blanks and makes none commutes with trimming. -/
theorem trimList_map {f : Char → Char} (hf : ∀ c, isWhiteSpace (f c) = isWhiteSpace c)
    (cs : List Char) : trimList (cs.map f) = (trimList cs).map f := by
  have htrailing : ∀ ds : List Char, dropTrailing (ds.map f) = (dropTrailing ds).map f := by
    intro ds
    induction ds with
    | nil => rfl
    | cons d ds ih =>
      rw [List.map_cons, dropTrailing_cons, dropTrailing_cons, ih, hf, List.isEmpty_map]
      split <;> rfl
  have hleading : (cs.map f).dropWhile isWhiteSpace = (cs.dropWhile isWhiteSpace).map f := by
    rw [List.dropWhile_map]
    congr 2
    exact funext hf
  rw [trimList, hleading, htrailing, trimList]

/-- A letter is not blank, so case does not matter for blanks. -/
theorem isWhiteSpace_toLower (c : Char) : isWhiteSpace c.toLower = isWhiteSpace c := by
  by_cases hupper : c.isUpper
  · obtain ⟨hrange, hsmall⟩ := toNat_toLower_of_isUpper hupper
    simp only [isWhiteSpace, hsmall]
    rw [Bool.eq_iff_iff]
    simp only [Bool.or_eq_true, Bool.and_eq_true, decide_eq_true_eq, beq_iff_eq]
    omega
  · rw [Char.toLower_eq_of_not_isUpper hupper]

/-- Trimmed texts are equal up to ASCII case if the texts are. -/
theorem asciiCaseEq_trim (h : asciiCaseEq s t = true) :
    asciiCaseEq (trim s) (trim t) = true := by
  rw [asciiCaseEq_iff] at h ⊢
  rw [trim, trim, String.toList_ofList, String.toList_ofList, ← trimList_map isWhiteSpace_toLower,
    ← trimList_map isWhiteSpace_toLower, h]

/-- What equals a trimmed text up to ASCII case has no blanks around it itself. -/
theorem trim_eq_self_of_asciiCaseEq (h : asciiCaseEq s (trim t) = true) : trim s = s := by
  have htrimmed : asciiCaseEq (trim s) s = true := by
    have htrim := asciiCaseEq_trim h
    rw [trim_trim] at htrim
    exact asciiCaseEq_trans htrim (asciiCaseEq_symm h)
  rw [asciiCaseEq_iff, trim, String.toList_ofList] at htrimmed
  have hlength : (trimList s.toList).length = s.toList.length := by
    simpa using congrArg List.length htrimmed
  rw [trim, (trimList_sublist s.toList).eq_of_length hlength, String.ofList_toList]

/-! ### Capitals -/

/-- A character and its small form in ASCII have the same capital form. -/
theorem upperChar_toLower (c : Char) : upperChar c.toLower = upperChar c := by
  by_cases hupper : c.isUpper
  · obtain ⟨hrange, hsmall⟩ := toNat_toLower_of_isUpper hupper
    rw [upperChar, upperChar, if_pos (by omega), if_pos (by omega),
      Char.toUpper_toLower_eq_toUpper]
  · rw [Char.toLower_eq_of_not_isUpper hupper]

/-- Texts that are equal up to ASCII case have equal capitals. -/
theorem toUpper_eq_of_asciiCaseEq (h : asciiCaseEq s t = true) : toUpper s = toUpper t := by
  have hlower : ∀ cs : List Char,
      cs.flatMap upperChar = (cs.map Char.toLower).flatMap upperChar := by
    intro cs
    rw [List.flatMap_map]
    exact List.flatMap_congr fun c _ => (upperChar_toLower c).symm
  rw [toUpper, toUpper, hlower, asciiCaseEq_iff.1 h, ← hlower]

/-- Codes that are equal up to ASCII case are equal as codes. -/
theorem normalizeCode_eq_of_asciiCaseEq (h : asciiCaseEq s t = true) :
    normalizeCode s = normalizeCode t :=
  toUpper_eq_of_asciiCaseEq (asciiCaseEq_trim h)

/-- Trimming before a code is normalised changes nothing. -/
theorem normalizeCode_trim (s : String) : normalizeCode (trim s) = normalizeCode s := by
  rw [normalizeCode, trim_trim, normalizeCode]

/-! ### ASCII texts -/

/-- Every character belongs to ASCII. -/
def IsAscii (s : String) : Prop := ∀ c ∈ s.toList, c.toNat < 128

-- Instance search would go through all characters instead of those of the text.
instance : DecidablePred IsAscii := fun s =>
  List.decidableBAll (fun c : Char => c.toNat < 128) s.toList

/-- Trimming an ASCII text leaves an ASCII text. -/
theorem IsAscii.trim (h : IsAscii s) : IsAscii (trim s) := by
  intro c hc
  rw [Text.trim, String.toList_ofList] at hc
  exact h c ((trimList_sublist _).subset hc)

/-- The capitals of an ASCII text are those of its characters. -/
theorem IsAscii.toUpper_eq (h : IsAscii s) :
    toUpper s = String.ofList (s.toList.map Char.toUpper) := by
  have hchars : ∀ cs : List Char, (∀ c ∈ cs, c.toNat < 128) →
      cs.flatMap upperChar = cs.map Char.toUpper := by
    intro cs hcs
    rw [List.map_eq_flatMap]
    exact List.flatMap_congr fun c hc => by rw [upperChar, if_pos (hcs c hc)]
  rw [toUpper, hchars _ h]

/-- ASCII texts with equal capitals are equal up to ASCII case. -/
theorem asciiCaseEq_of_toUpper_eq (hs : IsAscii s) (ht : IsAscii t)
    (h : toUpper s = toUpper t) : asciiCaseEq s t = true := by
  have hsmall : ∀ cs : List Char,
      (cs.map Char.toUpper).map Char.toLower = cs.map Char.toLower := by
    intro cs
    rw [List.map_map]
    exact List.map_congr_left fun c _ => Char.toLower_toUpper_eq_toLower c
  rw [hs.toUpper_eq, ht.toUpper_eq, String.ofList_inj] at h
  rw [asciiCaseEq_iff, ← hsmall, h, hsmall]

/-- ASCII codes are equal as codes exactly if their trimmed texts are equal up to case. -/
theorem asciiCaseEq_trim_iff_of_isAscii (hs : IsAscii s) (ht : IsAscii t) :
    asciiCaseEq (trim s) (trim t) = true ↔ normalizeCode s = normalizeCode t := by
  constructor
  · intro h
    rw [← normalizeCode_trim s, ← normalizeCode_trim t]
    exact normalizeCode_eq_of_asciiCaseEq h
  · exact asciiCaseEq_of_toUpper_eq hs.trim ht.trim

end RegulatoryReporting.Text
